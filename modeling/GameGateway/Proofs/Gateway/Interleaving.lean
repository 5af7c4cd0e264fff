import GameGateway.Proofs.Gateway.Reconciliation

/-!
# Refreshing while an event is followed

Calls do not wait for each other. A refresh reads the records first and rebuilds the routes
afterwards, and following an event is a change of the routes for each record that it concerns, for
which the backend is looked up before. Only rebuilding and each of these changes are made at one go.
So calls are **tasks**, which go on step by step, and two of them **interleave**.

What becomes of a gateway that is refreshed while a server is saved and the event of that is
followed depends on two things only: whether the refresh reads the records before the save or after
it, and how many changes have been made when it rebuilds the routes
(`interleaves_iff_exists_ends`). It is the outcome of a serial order, whatever the records are, if
none has been made, or if the records are read after the save and all changes have been made; in no
other case is it one for all records (`serial_interleaved_refresh_iff`).
-/

namespace GameGateway

namespace Gateway

variable {config : Config} {machine : Machine} {panel : Panel} {g g' h : Gateway} {s : Server}

/-! ### Tasks -/

/-- A **task** is what is left to do of a call, in steps between which other calls may go on. -/
inductive Task where
  | done
  /-- A look at the records, or at the machine, on which the rest depends. -/
  | look (next : Panel → Task)
  /-- A change of the gateway at one go. -/
  | change (act : Gateway → Gateway) (rest : Task)

namespace Task

/-- The gateway behind a task with which no other one interleaves. -/
def run : Task → Gateway → Gateway
  | .done, g => g
  | .look next, g => (next g.panel).run g
  | .change act rest, g => rest.run (act g)

/-- The **changes** that a task makes while the records are those of a document. -/
def changes (panel : Panel) : Task → List (Gateway → Gateway)
  | .done => []
  | .look next => (next panel).changes panel
  | .change act rest => act :: rest.changes panel

/-- One **step** of a task. -/
inductive Step : Task → Gateway → Task → Gateway → Prop where
  | look {next : Panel → Task} {g : Gateway} : Step (.look next) g (next g.panel) g
  | change {act : Gateway → Gateway} {rest : Task} {g : Gateway} :
    Step (.change act rest) g rest (act g)

/-- Some number of steps of a task. -/
inductive Steps : Task → Gateway → Task → Gateway → Prop where
  | refl {t : Task} {g : Gateway} : Steps t g t g
  | cons {t t₁ t' : Task} {g g₁ g' : Gateway} (first : Step t g t₁ g₁)
    (rest : Steps t₁ g₁ t' g') : Steps t g t' g'

/-- Two tasks **interleave**, each in its own order, until both are done. -/
inductive Interleaves : Task → Task → Gateway → Gateway → Prop where
  | done {g : Gateway} : Interleaves .done .done g g
  | left {t u t₁ : Task} {g g₁ g' : Gateway} (first : Step t g t₁ g₁)
    (rest : Interleaves t₁ u g₁ g') : Interleaves t u g g'
  | right {t u u₁ : Task} {g g₁ g' : Gateway} (first : Step u g u₁ g₁)
    (rest : Interleaves t u₁ g₁ g') : Interleaves t u g g'

end Task

/-! ### The tasks of calls -/

/-- Rebuilds the ports from records that have been read. -/
def rebuild (machine : Machine) (panel : Panel) (g : Gateway) : Gateway :=
  { g with ports := reconcile g.config machine panel g.ports }

/-- The task of a refresh. -/
def refreshing (machine : Machine) : Task :=
  .look fun panel => .change (rebuild machine panel) .done

/-- The task of updating the route of a server, before others. -/
def updatingServer (config : Config) (machine : Machine) (s : Server) (rest : Task) : Task :=
  .look fun _ =>
    match planServer config machine s with
    | .error _ => rest
    | .ok plan => .change (fun g => (g.carryOut s plan).2) rest

/-- The task of updating the routes of a module, before others. -/
def updatingModule (config : Config) (machine : Machine) (s : Server) (m : Module) (rest : Task) :
    Task :=
  .look fun _ =>
    match planModule config machine m s with
    | .error _ => rest
    | .ok backendHost => .change (fun g => (g.replaceModule machine m s backendHost).2) rest

/-- The task of updating the routes of a server and then of its modules. -/
def syncing (config : Config) (machine : Machine) (s : Server) : Task :=
  updatingServer config machine s <|
    .look fun panel => (panel.modulesOf s.id).foldr (updatingModule config machine s) .done

/-- What is told of a server that has been saved. -/
inductive Notice where
  | statusChanged (status : Status)
  | updated (previousHostname : Option String) (previousListener : Option ListenerId)

/-- The event by which it is told. -/
def Notice.event (id : ServerId) : Notice → Event
  | .statusChanged status => .serverStatusChanged id status
  | .updated previousHostname previousListener =>
    .serverUpdated id previousHostname previousListener

/-- The task of following the event of a server. -/
def following (config : Config) (machine : Machine) (id : ServerId) : Notice → Task
  | .statusChanged status =>
    .look fun panel =>
      match panel.server? id with
      | none => .change (fun g => (g.removeServer id).2) .done
      | some s => syncing config machine { s with status }
  | .updated previousHostname previousListener =>
    let remove (g : Gateway) : Gateway :=
      match previousHostname with
      | some hostname => (g.removeHostname hostname previousListener).2
      | none => (g.removeServer id).2
    .change remove <| .look fun panel =>
      match panel.server? id with
      | none => .done
      | some s => syncing config machine s

/-- Saves a server in the store of a gateway, if that accepts it. -/
def saveServer (g : Gateway) (s : Server) : Gateway :=
  { g with store := (g.store.saveServer s).2 }

/-- The task of saving a server and then following the event of that. -/
def savingServer (config : Config) (machine : Machine) (s : Server) (notice : Notice) : Task :=
  .change (saveServer · s) (following config machine s.id notice)

/-! ### Tasks run on their own -/

/-- On its own, the task of a refresh is the refresh. -/
theorem run_refreshing : (refreshing machine).run g = g.refresh machine :=
  rfl

/-- On its own, the task of updating the route of a server is that call, and then the rest. -/
theorem run_updatingServer {rest : Task} :
    (updatingServer g.config machine s rest).run g = rest.run (g.updateServer machine s).2 := by
  rw [updatingServer, Task.run, updateServer]
  cases planServer g.config machine s with
  | error e => rfl
  | ok plan => rfl

/-- The same for a module; that its call may fail is of no account to the rest. -/
theorem run_updatingModule {m : Module} {rest : Task} :
    (updatingModule g.config machine s m rest).run g = rest.run (g.tryModule machine s m) := by
  rw [updatingModule, Task.run, tryModule, updateModule]
  cases planModule g.config machine m s with
  | error e => rfl
  | ok backendHost => rfl

/-- Modules of a server, one after the other. -/
theorem run_updatingModules (modules : List Module) :
    (modules.foldr (updatingModule g.config machine s) .done).run g =
      modules.foldl (tryModule machine s) g := by
  induction modules generalizing g with
  | nil => rfl
  | cons m rest ih =>
    have hconfig : (tryModule machine s g m).config = g.config := keeps_updateModule.1
    rw [List.foldr_cons, run_updatingModule, ← hconfig, ih]
    rfl

/-- **On its own, the task of a server is the call that brings its routes up to date.** -/
theorem run_syncing :
    (syncing g.config machine s).run g = (g.syncServer machine s).2 := by
  have hconfig : (g.updateServer machine s).2.config = g.config := keeps_updateServer.1
  rw [syncing, run_updatingServer, Task.run, ← hconfig, run_updatingModules]
  rfl

/-- **The task of following an event is following it**, when nothing comes in between. -/
theorem run_following (id : ServerId) (notice : Notice) :
    (following g.config machine id notice).run g =
      (g.applyEvent machine (notice.event id)).2 := by
  cases notice with
  | statusChanged status =>
    rw [following, Task.run, Notice.event, applyEvent]
    cases g.panel.server? id with
    | none => rfl
    | some s => exact run_syncing
  | updated previousHostname previousListener =>
    cases previousHostname with
    | none =>
      change Task.run (match g.panel.server? id with | none => .done | some s => _) _ = _
      rw [Notice.event, applyEvent]
      change _ = (match g.panel.server? id with | none => _ | some s => _ : Outcome Unit).2
      cases g.panel.server? id with
      | none => rfl
      | some s => exact run_syncing (g := (g.removeServer id).2)
    | some hostname =>
      change Task.run (match g.panel.server? id with | none => .done | some s => _) _ = _
      rw [Notice.event, applyEvent]
      change _ = (match g.panel.server? id with | none => _ | some s => _ : Outcome Unit).2
      cases g.panel.server? id with
      | none => rfl
      | some s => exact run_syncing (g := (g.removeHostname hostname previousListener).2)

/-! ### Tasks that leave the store -/

/-- A task **leaves the store** if each of its changes does, while the records are those of a
document. -/
def Task.LeavesStore (panel : Panel) (t : Task) : Prop :=
  ∀ act ∈ t.changes panel, ∀ g, (act g).store = g.store

/-- Carrying out a plan changes ports alone. -/
theorem store_carryOut {plan : ServerPlan} : (g.carryOut s plan).2.store = g.store := by
  cases plan with
  | nothing => rfl
  | withdraw listener hostname => rfl
  | install listener hostname backendHost =>
    rw [carryOut]
    split
    · rfl
    · rfl

/-- Updating the route of a server leaves the store, if what follows does. -/
theorem leavesStore_updatingServer {rest : Task} (h : rest.LeavesStore panel) :
    (updatingServer config machine s rest).LeavesStore panel := by
  rw [Task.LeavesStore, updatingServer, Task.changes]
  cases planServer config machine s with
  | error e => exact h
  | ok plan => exact List.forall_mem_cons.mpr ⟨fun _ => store_carryOut, h⟩

/-- So does updating the routes of a module. -/
theorem leavesStore_updatingModule {m : Module} {rest : Task} (h : rest.LeavesStore panel) :
    (updatingModule config machine s m rest).LeavesStore panel := by
  rw [Task.LeavesStore, updatingModule, Task.changes]
  cases planModule config machine m s with
  | error e => exact h
  | ok backendHost => exact List.forall_mem_cons.mpr ⟨fun _ => rfl, h⟩

theorem leavesStore_syncing : (syncing config machine s).LeavesStore panel := by
  refine leavesStore_updatingServer ?_
  rw [Task.LeavesStore, Task.changes]
  induction panel.modulesOf s.id with
  | nil => exact List.forall_mem_nil _
  | cons m rest ih => exact leavesStore_updatingModule ih

/-- **Following the event of a server leaves the store.** -/
theorem leavesStore_following (id : ServerId) (notice : Notice) :
    (following config machine id notice).LeavesStore panel := by
  cases notice with
  | statusChanged status =>
    rw [Task.LeavesStore, following, Task.changes]
    cases panel.server? id with
    | none => exact List.forall_mem_singleton.mpr fun _ => rfl
    | some s => exact leavesStore_syncing
  | updated previousHostname previousListener =>
    rw [Task.LeavesStore, following, Task.changes, Task.changes]
    refine List.forall_mem_cons.mpr ⟨fun g => ?_, ?_⟩
    · cases previousHostname with
      | none => rfl
      | some hostname => rfl
    · cases panel.server? id with
      | none => exact List.forall_mem_nil _
      | some s => exact leavesStore_syncing

/-- Makes changes one after the other. -/
def makeAll (changes : List (Gateway → Gateway)) (g : Gateway) : Gateway :=
  changes.foldl (fun g act => act g) g

/-- Changes that each leave the store do so together. -/
theorem store_makeAll {changes : List (Gateway → Gateway)}
    (h : ∀ act ∈ changes, ∀ g, (act g).store = g.store) : (makeAll changes g).store = g.store := by
  induction changes generalizing g with
  | nil => rfl
  | cons act rest ih =>
    obtain ⟨hact, hrest⟩ := List.forall_mem_cons.mp h
    exact (ih hrest).trans (hact g)

namespace Task

variable {t u : Task}

/-- A task that leaves the store makes its changes, whatever it looks at in between. -/
theorem run_eq_makeAll (hleaves : t.LeavesStore panel) (hg : g.panel = panel) :
    t.run g = makeAll (t.changes panel) g := by
  induction t generalizing g with
  | done => rfl
  | look next ih =>
    rw [run, changes, hg]
    exact ih panel hleaves hg
  | change act rest ih =>
    obtain ⟨hact, hrest⟩ := List.forall_mem_cons.mp hleaves
    exact ih hrest ((congrArg Store.panel (hact g)).trans hg)

/-- What remains of a task that leaves the store leaves it as well. -/
theorem LeavesStore.drop {k : Nat} (hleaves : t.LeavesStore panel)
    (hu : u.changes panel = (t.changes panel).drop k) : u.LeavesStore panel := by
  intro act hact
  rw [hu] at hact
  exact hleaves act (List.mem_of_mem_drop hact)

/-- Steps of a task that leaves the store make the first of its changes. -/
theorem exists_of_steps (hsteps : Steps t g u h) (hleaves : t.LeavesStore panel)
    (hg : g.panel = panel) :
    ∃ k ≤ (t.changes panel).length, u.changes panel = (t.changes panel).drop k ∧
      h = makeAll ((t.changes panel).take k) g := by
  induction hsteps with
  | refl => exact ⟨0, Nat.zero_le _, rfl, rfl⟩
  | cons first rest ih =>
    cases first with
    | look =>
      subst hg
      exact ih hleaves rfl
    | change =>
      obtain ⟨hact, hrest⟩ := List.forall_mem_cons.mp hleaves
      obtain ⟨k, hk, hu, rfl⟩ := ih hrest ((congrArg Store.panel (hact _)).trans hg)
      exact ⟨k + 1, Nat.succ_le_succ hk, hu, rfl⟩

/-- A task that leaves the store comes by each number of its changes. -/
theorem exists_steps (hleaves : t.LeavesStore panel) (hg : g.panel = panel) {k : Nat}
    (hk : k ≤ (t.changes panel).length) :
    ∃ u, Steps t g u (makeAll ((t.changes panel).take k) g) ∧
      u.changes panel = (t.changes panel).drop k := by
  induction t generalizing g k with
  | done =>
    obtain rfl : k = 0 := Nat.le_zero.mp hk
    exact ⟨.done, .refl, rfl⟩
  | look next ih =>
    subst hg
    obtain ⟨u, hsteps, hu⟩ := ih g.panel hleaves rfl hk
    exact ⟨u, .cons .look hsteps, hu⟩
  | change act rest ih =>
    obtain ⟨hact, hrest⟩ := List.forall_mem_cons.mp hleaves
    cases k with
    | zero => exact ⟨.change act rest, .refl, rfl⟩
    | succ k =>
      obtain ⟨u, hsteps, hu⟩ := ih hrest ((congrArg Store.panel (hact g)).trans hg)
        (Nat.le_of_succ_le_succ hk)
      exact ⟨u, .cons .change hsteps, hu⟩

/-! ### Where a refresh comes in -/

/-- Beside a task that is done, another one runs on its own. -/
theorem interleaves_done_iff : Interleaves .done t g g' ↔ g' = t.run g := by
  constructor
  · intro hi
    generalize hd : Task.done = d at hi
    induction hi with
    | done => rfl
    | left first =>
      subst hd
      cases first
    | right first _ ih =>
      rw [ih hd]
      cases first with
      | look => rfl
      | change => rfl
  · rintro rfl
    induction t generalizing g with
    | done => exact .done
    | look next ih => exact .right .look (ih _)
    | change act rest ih => exact .right .change ih

/-- A task may first go some way on its own, before it interleaves with another one. -/
theorem Interleaves.after_steps (hsteps : Steps u g t h) {d : Task}
    (hi : Interleaves d t h g') : Interleaves d u g g' := by
  induction hsteps with
  | refl => exact hi
  | cons first _ ih => exact .right first (ih hi)

theorem Steps.trans (h₁ : Steps t g u h) {v : Task} (h₂ : Steps u h v g') : Steps t g v g' := by
  induction h₁ with
  | refl => exact h₂
  | cons first _ ih => exact .cons first (ih h₂)

/-- A task of one change comes in somewhere. -/
theorem interleaves_change_iff {act : Gateway → Gateway} :
    Interleaves (.change act .done) t g g' ↔
      ∃ u h, Steps t g u h ∧ g' = u.run (act h) := by
  constructor
  · intro hi
    generalize hd : Task.change act .done = d at hi
    induction hi with
    | done => cases hd
    | left first rest =>
      subst hd
      cases first with
      | change => exact ⟨_, _, .refl, interleaves_done_iff.mp rest⟩
    | right first _ ih =>
      obtain ⟨u, h, hsteps, heq⟩ := ih hd
      exact ⟨u, h, .cons first hsteps, heq⟩
  · rintro ⟨u, h, hsteps, rfl⟩
    exact .after_steps hsteps (.left .change (interleaves_done_iff.mpr rfl))

/-- **A refresh reads the records somewhere** in the course of another task, and rebuilds the ports
from them somewhere behind. -/
theorem interleaves_refreshing_iff :
    Interleaves (refreshing machine) t g g' ↔
      ∃ t₁ g₁ t₂ g₂, Steps t g t₁ g₁ ∧ Steps t₁ g₁ t₂ g₂ ∧
        g' = t₂.run (rebuild machine g₁.panel g₂) := by
  constructor
  · intro hi
    generalize hd : refreshing machine = d at hi
    induction hi with
    | done => cases hd
    | left first rest =>
      subst hd
      cases first with
      | look =>
        obtain ⟨t₂, g₂, hsteps, heq⟩ := interleaves_change_iff.mp rest
        exact ⟨_, _, t₂, g₂, .refl, hsteps, heq⟩
    | right first _ ih =>
      obtain ⟨t₁, g₁, t₂, g₂, hfirst, hsecond, heq⟩ := ih hd
      exact ⟨t₁, g₁, t₂, g₂, .cons first hfirst, hsecond, heq⟩
  · rintro ⟨t₁, g₁, t₂, g₂, hfirst, hsecond, heq⟩
    exact .after_steps hfirst
      (.left .look (interleaves_change_iff.mpr ⟨t₂, g₂, hsecond, heq⟩))

end Task

/-! ### How interleavings end -/

/-- The **phase** in which a refresh rebuilds the ports: before all changes of another task, amid
them or behind them. -/
inductive Phase where
  | before
  | amid
  | behind
  deriving DecidableEq

/-- Whether a phase is the one in which `k` of `n` changes have been made. -/
def Phase.At (k n : Nat) : Phase → Prop
  | .before => k = 0
  | .amid => 0 < k ∧ k < n
  | .behind => 0 < k ∧ k = n

theorem Phase.le_of_at {phase : Phase} {k n : Nat} (hat : phase.At k n) : k ≤ n := by
  cases phase with
  | before => exact hat ▸ Nat.zero_le n
  | amid => exact Nat.le_of_lt hat.2
  | behind => exact Nat.le_of_eq hat.2

/-- Each number of changes that can have been made belongs to a phase. -/
theorem Phase.exists_at {k n : Nat} (hk : k ≤ n) : ∃ phase : Phase, phase.At k n := by
  rcases Nat.eq_zero_or_pos k with hzero | hpos
  · exact ⟨.before, hzero⟩
  · rcases Nat.lt_or_eq_of_le hk with hlt | heq
    · exact ⟨.amid, hpos, hlt⟩
    · exact ⟨.behind, hpos, heq⟩

/-- A gateway **ends** as another one, when a server is saved and the event of that is followed, and
a refresh reads the records before the save or after it, and rebuilds the ports in a phase. -/
def Ends (machine : Machine) (s : Server) (notice : Notice) (fresh : Bool) (phase : Phase)
    (g g' : Gateway) : Prop :=
  let saved := g.saveServer s
  let panel := if fresh then saved.panel else g.panel
  let changes := (following g.config machine s.id notice).changes saved.panel
  ∃ k, phase.At k changes.length ∧
    g' = makeAll (changes.drop k) (rebuild machine panel (makeAll (changes.take k) saved))

variable {notice : Notice} {t : Task}

/-- What is left of following an event is made after the ports have been rebuilt. -/
theorem run_rebuild {k : Nat} (hleaves : t.LeavesStore panel) {u : Task} {saved : Gateway}
    (hsaved : saved.panel = panel) (hu : u.changes panel = (t.changes panel).drop k)
    (records : Panel) :
    u.run (rebuild machine records (makeAll ((t.changes panel).take k) saved)) =
      makeAll ((t.changes panel).drop k)
        (rebuild machine records (makeAll ((t.changes panel).take k) saved)) := by
  have hstore : (makeAll ((t.changes panel).take k) saved).store = saved.store :=
    store_makeAll fun act hact => hleaves act (List.mem_of_mem_take hact)
  rw [← hu]
  exact Task.run_eq_makeAll (hleaves.drop hu) ((congrArg Store.panel hstore).trans hsaved)

/-- **How the interleavings of a refresh end.** What becomes of the gateway depends on whether the
records are read before the save, and on how many changes have been made when the ports are
rebuilt, and all that is possible. -/
theorem interleaves_iff_exists_ends :
    Task.Interleaves (refreshing machine) (savingServer g.config machine s notice) g g' ↔
      ∃ fresh phase, Ends machine s notice fresh phase g g' := by
  let saved := g.saveServer s
  let t := following g.config machine s.id notice
  have hleaves : t.LeavesStore saved.panel := leavesStore_following s.id notice
  have hends : ∀ {fresh : Bool} {t₂ g₂}, Task.Steps t saved t₂ g₂ →
      g' = t₂.run (rebuild machine (if fresh then saved.panel else g.panel) g₂) →
        ∃ phase, Ends machine s notice fresh phase g g' := by
    rintro fresh t₂ _ hsteps rfl
    obtain ⟨k, hk, hu, rfl⟩ := Task.exists_of_steps hsteps hleaves rfl
    obtain ⟨phase, hat⟩ := Phase.exists_at hk
    exact ⟨phase, k, hat, run_rebuild hleaves rfl hu _⟩
  rw [Task.interleaves_refreshing_iff]
  constructor
  · rintro ⟨t₁, g₁, t₂, g₂, hfirst, hsecond, heq⟩
    cases hfirst with
    | refl =>
      -- the records are read before the save
      cases hsecond with
      | refl =>
        -- the ports are rebuilt before it, too, which might as well be right after it
        exact ⟨false, hends .refl heq⟩
      | cons first hsteps =>
        cases first with
        | change => exact ⟨false, hends hsteps heq⟩
    | cons first hfirst =>
      cases first with
      | change =>
        obtain ⟨k, -, -, rfl⟩ := Task.exists_of_steps hfirst hleaves rfl
        have hstore : (makeAll ((t.changes saved.panel).take k) saved).store = saved.store :=
          store_makeAll fun act hact => hleaves act (List.mem_of_mem_take hact)
        have hpanel : (makeAll ((t.changes saved.panel).take k) saved).panel = saved.panel :=
          congrArg Store.panel hstore
        exact ⟨true, hends (hfirst.trans hsecond) (hpanel ▸ heq)⟩
  · rintro ⟨fresh, phase, k, hat, rfl⟩
    obtain ⟨u, hsteps, hu⟩ := Task.exists_steps hleaves rfl (Phase.le_of_at hat)
    have hrun : ∀ records, u.run (rebuild machine records _) = _ := run_rebuild hleaves rfl hu
    cases fresh with
    | false => exact ⟨_, _, u, _, .refl, .cons .change hsteps, (hrun _).symm⟩
    | true => exact ⟨_, _, u, _, .cons .change .refl, hsteps, (hrun _).symm⟩

/-! ### Serial orders -/

/-- The gateway behind the event of a server. -/
def afterNotice (machine : Machine) (id : ServerId) (notice : Notice) (g : Gateway) : Gateway :=
  (g.applyEvent machine (notice.event id)).2

/-- A gateway has the routes of a **serial** order, in which it is refreshed before a server is
saved, after that or after the event of that has been followed. -/
def Serial (machine : Machine) (s : Server) (notice : Notice) (g g' : Gateway) : Prop :=
  g'.routes = (afterNotice machine s.id notice ((g.refresh machine).saveServer s)).routes ∨
  g'.routes = (afterNotice machine s.id notice ((g.saveServer s).refresh machine)).routes ∨
  g'.routes = ((afterNotice machine s.id notice (g.saveServer s)).refresh machine).routes

theorem makeAll_following (id : ServerId) (notice : Notice) :
    makeAll ((following g.config machine id notice).changes g.panel) g =
      afterNotice machine id notice g :=
  (Task.run_eq_makeAll (leavesStore_following id notice) rfl).symm.trans (run_following id notice)

/-- A refresh that rebuilds before all changes might as well be over by the first. -/
theorem serial_of_before {fresh : Bool} (hends : Ends machine s notice fresh .before g g') :
    Serial machine s notice g g' := by
  obtain ⟨k, rfl, rfl⟩ := hends
  cases fresh with
  | false =>
    exact .inl (congrArg routes
      (makeAll_following (g := (g.refresh machine).saveServer s) s.id notice))
  | true =>
    exact .inr (.inl (congrArg routes
      (makeAll_following (g := (g.saveServer s).refresh machine) s.id notice)))

/-- A refresh that rebuilds behind all changes might as well begin there, if it has seen what was
saved. -/
theorem serial_of_behind (hends : Ends machine s notice true .behind g g') :
    Serial machine s notice g g' := by
  obtain ⟨k, ⟨-, rfl⟩, rfl⟩ := hends
  refine .inr (.inr (congrArg routes ?_))
  have hfollow : makeAll _ (g.saveServer s) = afterNotice machine s.id notice (g.saveServer s) :=
    makeAll_following s.id notice
  have hstore :
      (afterNotice machine s.id notice (g.saveServer s)).store = (g.saveServer s).store := by
    rw [← hfollow]
    exact store_makeAll (leavesStore_following s.id notice)
  rw [List.drop_length, List.take_length]
  change rebuild machine (g.saveServer s).panel _ = rebuild machine _ _
  rw [panel, panel, hstore]
  exact congrArg _ hfollow

/-! ### Orders that are not serial -/

/-- The routes under some keys on a port. -/
def routesAt (g : Gateway) (port : UInt16) (keys : List String) : List (Option Route) :=
  keys.map fun key => g.routes[port]?.bind (·.routes.get? key)

/-- A gateway that differs on one port from what each serial order gives there is behind none of
these orders. -/
theorem not_serial_of_routesAt_ne (port : UInt16) (keys : List String)
    (hbefore : g'.routesAt port keys ≠
      (afterNotice machine s.id notice ((g.refresh machine).saveServer s)).routesAt port keys)
    (hbetween : g'.routesAt port keys ≠
      (afterNotice machine s.id notice ((g.saveServer s).refresh machine)).routesAt port keys)
    (hbehind : g'.routesAt port keys ≠
      ((afterNotice machine s.id notice (g.saveServer s)).refresh machine).routesAt port keys) :
    ¬Serial machine s notice g g' := by
  have hsame : ∀ {g₁ g₂ : Gateway}, g₁.routes = g₂.routes →
      g₁.routesAt port keys = g₂.routesAt port keys := by
    intro g₁ g₂ h
    rw [routesAt, routesAt, h]
  rintro (h | h | h)
  · exact hbefore (hsame h)
  · exact hbetween (hsame h)
  · exact hbehind (hsame h)

/-- A refresh that has read that a server is running gives it back its route when this has been
removed meanwhile. -/
theorem exists_not_serial_of_stale_behind :
    ∃ config store turns machine s notice g', let g := (new config store).after turns
      Ends machine s notice false .behind g g' ∧ ¬Serial machine s notice g g' := by
  let main : Listener := { id := ⟨.ofNat 1⟩, port := 25565, name := "main" }
  let lobby : Server := {
    id := ⟨.ofNat 2⟩, name := "lobby", container := some "lobby", hostname := some "lobby.games"
    status := .stopped, listener := some main.id }
  let store := Store.ofPanel {
    version := 1, listeners := [main], servers := [{ lobby with status := .running }] }
  let machine : Machine := {
    address := fun _ _ => .ok (.v4 #v[172, 18, 0, 2]), bindFault := fun _ => none }
  refine ⟨{}, store, [.call machine .start], machine, lobby, .statusChanged .stopped, _,
    ⟨1, ⟨Nat.one_pos, by decide +kernel⟩, rfl⟩, ?_⟩
  exact not_serial_of_routesAt_ne 25565 ["lobby.games"] (by decide +kernel) (by decide +kernel)
    (by decide +kernel)

/-- A refresh that has read the old host of a server gives this a route again that has been removed
meanwhile, and the new host gets one, too. -/
theorem exists_not_serial_of_stale_amid :
    ∃ config store turns machine s notice g', let g := (new config store).after turns
      Ends machine s notice false .amid g g' ∧ ¬Serial machine s notice g g' := by
  let main : Listener := { id := ⟨.ofNat 1⟩, port := 25565, name := "main" }
  let lobby : Server := {
    id := ⟨.ofNat 2⟩, name := "lobby", container := some "lobby", hostname := some "lobby.games"
    status := .running, listener := some main.id }
  let store := Store.ofPanel {
    version := 1, listeners := [main], servers := [{ lobby with hostname := some "old.games" }] }
  let machine : Machine := {
    address := fun _ _ => .ok (.v4 #v[172, 18, 0, 2]), bindFault := fun _ => none }
  refine ⟨{}, store, [.call machine .start], machine, lobby,
    .updated (some "old.games") (some main.id), _,
    ⟨1, ⟨Nat.one_pos, by decide +kernel⟩, rfl⟩, ?_⟩
  exact not_serial_of_routesAt_ne 25565 ["old.games"] (by decide +kernel) (by decide +kernel)
    (by decide +kernel)

/-- A refresh between the changes for one event gives other servers back what the first change has
taken from them, and the second one changes what is theirs by then. -/
theorem exists_not_serial_of_fresh_amid :
    ∃ config store turns machine s notice g', let g := (new config store).after turns
      Ends machine s notice true .amid g g' ∧ ¬Serial machine s notice g g' := by
  let main : Listener := { id := ⟨.ofNat 1⟩, port := 25565, name := "main" }
  let lobby : Server := {
    id := ⟨.ofNat 2⟩, name := "lobby", container := some "lobby", hostname := some "lobby.games"
    status := .running, listener := some main.id }
  -- the one has the new host of the lobby, and the other one the old host
  let arena : Server := { lobby with id := ⟨.ofNat 3⟩, name := "arena", container := some "arena" }
  let maze : Server := { arena with id := ⟨.ofNat 4⟩, name := "maze", hostname := some "old.games" }
  let store := Store.ofPanel {
    version := 1, listeners := [main]
    servers := [{ lobby with hostname := some "old.games" }, arena, maze] }
  let machine : Machine := {
    address := fun container _ =>
      .ok (.v4 (if container = "lobby" then #v[172, 18, 0, 2] else #v[172, 18, 0, 3]))
    bindFault := fun _ => none }
  refine ⟨{}, store, [.call machine .start], machine, lobby,
    .updated (some "old.games") (some main.id), _,
    ⟨1, ⟨Nat.one_pos, by decide +kernel⟩, rfl⟩, ?_⟩
  exact not_serial_of_routesAt_ne 25565 ["old.games", "lobby.games"] (by decide +kernel)
    (by decide +kernel) (by decide +kernel)

/-- Saving a server as it is and following an event of one change is serial with every refresh. -/
theorem serial_of_same_records (hsame : (g.saveServer s).panel = g.panel)
    (hone : ((following g.config machine s.id notice).changes g.panel).length ≤ 1) {fresh : Bool}
    {phase : Phase} (hends : Ends machine s notice fresh phase g g') :
    Serial machine s notice g g' := by
  have hfresh : Ends machine s notice true phase g g' := by
    cases fresh with
    | true => exact hends
    | false =>
      obtain ⟨k, hat, heq⟩ := hends
      rw [if_neg Bool.false_ne_true, ← hsame] at heq
      exact ⟨k, hat, heq⟩
  cases phase with
  | before => exact serial_of_before hfresh
  | behind => exact serial_of_behind hfresh
  | amid =>
    obtain ⟨k, ⟨hpos, hlt⟩, -⟩ := hfresh
    rw [hsame] at hlt
    omega

/-- **Which interleavings of a refresh are serial.** When a gateway is refreshed while a server is
saved and the event of that is followed, after any run, it is settled by when the records are read
and when the ports are rebuilt what becomes of it. That is what becomes of it in a serial order if
the ports are rebuilt before all changes for the event, or behind all of them from records that were
read after the save, or if the save leaves the records and the event makes one change at most. In
each other case there are records for which it is not. -/
theorem serial_interleaved_refresh_iff (config : Config) (store : Store) (turns : List Turn)
    (machine : Machine) (s : Server) (notice : Notice) :
    let g := (new config store).after turns
    let changes := (following g.config machine s.id notice).changes g.panel
    (∀ g', Task.Interleaves (refreshing machine) (savingServer g.config machine s notice) g g' ↔
      ∃ fresh phase, Ends machine s notice fresh phase g g') ∧
    (∀ fresh phase g', Ends machine s notice fresh phase g g' →
      phase = .before ∨ fresh = true ∧ phase = .behind ∨
        (g.saveServer s).panel = g.panel ∧ changes.length ≤ 1 →
      Serial machine s notice g g') ∧
    ∀ fresh phase, (phase = .before ∨ fresh = true ∧ phase = .behind ↔
      ∀ config store turns machine s notice g', let g := (new config store).after turns
        Ends machine s notice fresh phase g g' → Serial machine s notice g g') := by
  intro g changes
  refine ⟨fun g' => interleaves_iff_exists_ends, ?_, fun fresh phase => ⟨?_, fun h => ?_⟩⟩
  · rintro fresh phase g' hends (rfl | ⟨rfl, rfl⟩ | ⟨hsame, hone⟩)
    · exact serial_of_before hends
    · exact serial_of_behind hends
    · exact serial_of_same_records hsame hone hends
  · rintro (rfl | ⟨rfl, rfl⟩) config store turns machine s notice g' g hends
    · exact serial_of_before hends
    · exact serial_of_behind hends
  · have hnot : ¬∃ config store turns machine s notice g',
        let g := (new config store).after turns
        Ends machine s notice fresh phase g g' ∧ ¬Serial machine s notice g g' := by
      rintro ⟨config, store, turns, machine, s, notice, g', hends, hserial⟩
      exact hserial (h config store turns machine s notice g' hends)
    cases phase with
    | before => exact .inl rfl
    | amid =>
      cases fresh with
      | false => exact absurd exists_not_serial_of_stale_amid hnot
      | true => exact absurd exists_not_serial_of_fresh_amid hnot
    | behind =>
      cases fresh with
      | false => exact absurd exists_not_serial_of_stale_behind hnot
      | true => exact .inr ⟨rfl, rfl⟩

/-- A refresh reads that a server is not running, then the server is saved as running and gets its
route, and then the refresh rebuilds the ports: the server has no route, as it has in all serial
orders. -/
theorem not_serial_of_interleaved_refresh :
    let main : Listener := { id := ⟨.ofNat 1⟩, port := 25565, name := "main" }
    let stopped : Server := {
      id := ⟨.ofNat 2⟩, name := "lobby", container := some "lobby", hostname := some "lobby.games"
      listener := some main.id }
    let lobby : Server := { stopped with status := .running }
    let machine : Machine := {
      address := fun _ _ => .ok (.v4 #v[172, 18, 0, 2]), bindFault := fun _ => none }
    let notice := Notice.statusChanged .running
    let g := (new {} (.ofPanel { version := 1, listeners := [main], servers := [stopped] })).after
      [.call machine .start]
    let g' := rebuild machine g.panel (afterNotice machine lobby.id notice (g.saveServer lobby))
    Task.Interleaves (refreshing machine) (savingServer g.config machine lobby notice) g g' ∧
      g'.panel.servers = [lobby] ∧ g'.routesAt 25565 ["lobby.games"] = [none] ∧
      ¬Serial machine lobby notice g g' := by
  intro main stopped lobby machine notice g g'
  have hends : Ends machine lobby notice false .behind g g' :=
    ⟨1, ⟨Nat.one_pos, by decide +kernel⟩, rfl⟩
  exact ⟨interleaves_iff_exists_ends.mpr ⟨false, .behind, hends⟩, by decide +kernel,
    by decide +kernel, not_serial_of_routesAt_ne 25565 ["lobby.games"] (by decide +kernel)
      (by decide +kernel) (by decide +kernel)⟩

end Gateway

end GameGateway
