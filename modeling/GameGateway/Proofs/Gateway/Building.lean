import GameGateway.Gateway.Refresh
import GameGateway.Proofs.Gateway.Lawful

/-!
# Building routes

`start`, `refresh` and the routes of modules change ports in four ways only, the **steps** of
building: a free port is opened for a listener, the port of a listener gets a route, and an open or
a free port gets a route of a module. So what these keep is kept by all building (`Builds`).
-/

namespace GameGateway

namespace Ports

variable {config : Gateway.Config} {machine : Machine} {p p' p'' : Ports}

/-- A **step** of building. -/
inductive BuildStep (config : Gateway.Config) (machine : Machine) (p : Ports) : Ports → Prop
  | openListener {p' : Ports} {id : ListenerId} {port : UInt16} (hfree : p.get? port = none)
      (hok : p.openPort machine (.listener id) .minecraft (config.address port) = .ok p') :
      BuildStep config machine p p'
  | addServer {id : ListenerId} {port : UInt16} (hport : p.portOf? id = some port)
      (server : ServerId) (hostname backendHost : String) (backendPort : UInt16) :
      BuildStep config machine p
        (p.modifyRoutes port fun t => t.add server.toString hostname backendHost backendPort)
  | addModule {port : UInt16} (hopen : p.contains port = true)
      (m : ModuleId) (hostname backendHost : String) (backendPort : UInt16) :
      BuildStep config machine p
        (p.modifyRoutes port fun t => t.add m.toString hostname backendHost backendPort)
  /-- The port has its first route at once, so it is not idle. -/
  | openModule {p' : Ports} {protocol : Protocol} {port : UInt16} (hfree : p.get? port = none)
      (hok : p.openPort machine .module protocol (config.address port) = .ok p')
      (m : ModuleId) (hostname backendHost : String) (backendPort : UInt16) :
      BuildStep config machine p
        (p'.modifyRoutes port fun t => t.add m.toString hostname backendHost backendPort)

/-- Ports are what **building** makes of others, step by step. -/
inductive Builds (config : Gateway.Config) (machine : Machine) : Ports → Ports → Prop
  | refl {p : Ports} : Builds config machine p p
  | step {p p' p'' : Ports} (hstep : BuildStep config machine p p')
      (hrest : Builds config machine p' p'') : Builds config machine p p''

theorem BuildStep.builds (h : BuildStep config machine p p') : Builds config machine p p' :=
  .step h .refl

/-- Building goes on where building has stopped. -/
theorem Builds.trans (h₁ : Builds config machine p p') (h₂ : Builds config machine p' p'') :
    Builds config machine p p'' := by
  induction h₁ with
  | refl => exact h₂
  | step hstep _ ih => exact .step hstep (ih h₂)

/-- What is built for each of many records is built for all of them. -/
theorem builds_foldl {α : Type} {f : Ports → α → Ports}
    (hf : ∀ (p : Ports) (a : α), Builds config machine p (f p a)) :
    ∀ (l : List α) (p : Ports), Builds config machine p (l.foldl f p)
  | [], _ => .refl
  | a :: l, p => (hf p a).trans (builds_foldl hf l (f p a))

end Ports

namespace Gateway

open Ports (Builds)

variable {config : Config} {machine : Machine} {ports ports' : Ports} {panel : Panel} {s : Server}
  {m : Module}

/-! ### Ports of listeners -/

/-- A listener is opened on a free port only. -/
theorem builds_openListener {l : Listener}
    (hok : openListener config machine l ports = .ok ports') :
    Builds config machine ports ports' := by
  unfold openListener at hok
  split at hok
  · cases hok
  · next hc =>
    have hfree := Ports.get?_eq_none_of_contains (Bool.eq_false_iff.mpr hc)
    exact (Ports.BuildStep.openListener hfree hok).builds

/-- A listener that cannot be opened has nothing built for it. -/
theorem builds_tryListener {l : Listener} :
    Builds config machine ports (tryListener config machine ports l) := by
  unfold tryListener
  split
  · next hok => exact builds_openListener hok
  · exact .refl

theorem builds_openListeners (listeners : List Listener) :
    Builds config machine ports (openListeners config machine listeners ports) :=
  Ports.builds_foldl (fun _ _ => builds_tryListener) listeners ports

/-! ### Routes of modules -/

/-- The port of a module is opened together with its first route, so no step leaves it without
one. -/
theorem builds_addModulePort {server : Server} {backendHost : String} {p : ModulePort}
    (hok : addModulePort config machine m server backendHost p ports = .ok ports') :
    Builds config machine ports ports' := by
  unfold addModulePort at hok
  split at hok
  · cases hok
  · next protocol _ =>
    split at hok
    · cases hok
    · next ports₁ hensure =>
      obtain rfl := Except.ok.inj hok
      unfold ensurePort at hensure
      split at hensure
      · next e he =>
        split at hensure
        · obtain rfl := Except.ok.inj hensure
          have hopen : ports.contains p.listenPort = true := by rw [Ports.contains, he]; rfl
          exact (Ports.BuildStep.addModule hopen m.id _ _ _).builds
        · cases hensure
      · next hfree => exact (Ports.BuildStep.openModule hfree hensure m.id _ _ _).builds

/-- Building stops at the first port that fails, and keeps what has been built before. -/
theorem builds_addModulePorts {server : Server} {backendHost : String} :
    ∀ (l : List ModulePort) (ports : Ports),
      Builds config machine ports (addModulePorts config machine m server backendHost l ports).2
  | [], _ => .refl
  | p :: rest, ports => by
    rw [addModulePorts]
    split
    · exact .refl
    · next ports₁ hok =>
      exact (builds_addModulePort hok).trans (builds_addModulePorts rest ports₁)

/-! ### Setting all routes -/

/-- A server has a route built when its listener has a port. -/
theorem builds_restoreServer :
    Builds config machine ports (restoreServer config machine s ports) := by
  unfold restoreServer
  split
  · next port container hport _ =>
    obtain ⟨id, -, hid⟩ := Option.bind_eq_some_iff.mp hport
    split
    · exact .refl
    · exact (Ports.BuildStep.addServer hid s.id _ _ _).builds
  · exact .refl

/-- A module has nothing built without the address of its container. -/
theorem builds_restoreModule :
    Builds config machine ports (restoreModule config machine s ports m) := by
  unfold restoreModule
  split
  · exact .refl
  · split
    · exact .refl
    · exact builds_addModulePorts _ _

theorem builds_restore : Builds config machine ports (restore config machine panel ports s) := by
  unfold restore
  split
  · exact builds_restoreServer.trans (Ports.builds_foldl (fun _ _ => builds_restoreModule) _ _)
  · exact .refl

/-- **Setting all routes is building.** -/
theorem builds_restoreAll :
    Builds config machine ports (restoreAll config machine panel ports) :=
  Ports.builds_foldl (fun _ _ => builds_restore) _ _

end Gateway

end GameGateway
