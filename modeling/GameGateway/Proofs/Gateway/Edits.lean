import GameGateway.Proofs.Gateway.Updating

/-!
# Following the edits of servers

When servers have been edited, their events bring a gateway up to date one by one. Such an event
removes the route under the host that the server had, whoever it belongs to, and then sets the
server's own route or, if it is not routable any more, removes the one under its new host. So an
edit **spoils** the route of another server that is to have it under such a key; apart from that,
the gateway is settled in the end, in whatever order the events come.

While events are still to come, the routes of a gateway are those that servers have by now and those
that the pending edits have not taken away yet (`Tracks`).
-/

namespace GameGateway

/-! ### Saving servers -/

namespace Store

/-- Saves servers one after the other, up to the first that fails. -/
def saveServers (s : Store) : List Server → Except StoreError Unit × Store
  | [] => (.ok (), s)
  | server :: rest =>
    match s.saveServer server with
    | (.error cause, s) => (.error cause, s)
    | (.ok (), s) => saveServers s rest

/-- Saving servers puts one after the other into the records, and does nothing else to them. -/
theorem panel_of_saveServers_eq_ok : ∀ (l : List Server) (s s' : Store),
    s.saveServers l = (.ok (), s') → s'.panel = { s.panel with
      servers := l.foldl (fun servers server => upsert (·.id) server servers) s.panel.servers }
  | [], s, s', h => by rw [← (Prod.mk.inj h).2]; rfl
  | server :: rest, s, s', h => by
    rw [saveServers] at h
    split at h
    · cases (Prod.mk.inj h).1
    · next s₁ hsave =>
      have hone : s₁.panel = { s.panel with
          servers := upsert (·.id) server s.panel.servers } :=
        (Panel.saveServer_eq_ok_iff.mp (of_change_eq_ok hsave)).2
      rw [panel_of_saveServers_eq_ok rest s₁ s' h, hone]
      rfl

end Store

namespace Gateway

variable {config : Config} {machine : Machine} {g g' : Gateway} {k port : UInt16} {key : String}
  {s : Server} {l l' : ListenerId} {r : Route} {servers : List Server}

/-! ### Edits -/

/-- An **edit** of a server: its record before and after. -/
structure Edit where
  before : Server
  after : Server
  same : after.id = before.id

namespace Edit

/-- The event of an edit; it tells the host and the listener that the server had. -/
def event (config : Config) (e : Edit) : Event :=
  .serverUpdated e.after.id (some (config.hostnames.hostname e.before)) e.before.listener

/-- Following an edit **removes** the route under a key on a listener: the key is that of the
server's former host, or that of its new one if it is not routable any more. -/
def Removes (config : Config) (e : Edit) (l : ListenerId) (key : String) : Prop :=
  ((e.before.listener = none ∨ e.before.listener = some l) ∧
    Route.Key.normalize (config.hostnames.hostname e.before) = key) ∨
  (e.after.status.isRoutable = false ∧ e.after.listener = some l ∧
    Route.Key.normalize (config.hostnames.hostname e.after) = key)

instance {config : Config} {e : Edit} {l : ListenerId} {key : String} :
    Decidable (e.Removes config l key) :=
  inferInstanceAs (Decidable (_ ∨ _))

/-- An edit **spoils** the route of another server when following it removes that route from the
port on which the server is to have it. -/
def Spoils (config : Config) (machine : Machine) (ports : Ports) (servers : List Server)
    (e : Edit) : Prop :=
  ∃ s ∈ servers, s.id ≠ e.after.id ∧ ∃ a ∈ routeFor? config machine s,
    (ports.portOf? a.1).isSome ∧ e.Removes config a.1 a.2.key

instance {config : Config} {machine : Machine} {ports : Ports} {servers : List Server} {e : Edit} :
    Decidable (e.Spoils config machine ports servers) :=
  inferInstanceAs (Decidable (∃ s ∈ servers, _))

/-- Following an edit removes the route that the server had. -/
theorem removes_before {config : Config} {machine : Machine} {e : Edit} {l : ListenerId} {r : Route}
    (h : routeFor? config machine e.before = some (l, r)) : e.Removes config l r.key :=
  .inl ⟨.inr (routeFor?_eq_some.mp h).1, (key_of_routeFor? h).symm⟩

end Edit

/-- The gateway without the route under the host that an edited server had. -/
def forget (g : Gateway) (e : Edit) : Gateway :=
  (g.removeHostname (g.config.hostnames.hostname e.before) e.before.listener).2

/-- The gateway behind the event of an edit. -/
def follow (machine : Machine) (g : Gateway) (e : Edit) : Gateway :=
  (g.applyEvent machine (e.event g.config)).2

variable {e : Edit}

/-- What following an edit does, if there are no modules and the edit has been saved. -/
theorem follow_eq (hmodules : g.panel.modules = [])
    (hsaved : g.panel.server? e.after.id = some e.after) :
    g.follow machine e = ((g.forget e).updateServer machine e.after).2 := by
  unfold follow Edit.event
  rw [applyEvent]
  have hserver : (g.forget e).panel.server? e.after.id = some e.after := hsaved
  unfold forget at hserver ⊢
  simp only [hserver]
  unfold syncServer
  dsimp only
  rw [Panel.modulesOf, panel, store_updateServer]
  change List.foldl _ _ (g.panel.modules.filter _) = _
  rw [hmodules]
  rfl

/-- Following an edit does not write any record. -/
theorem store_follow (hmodules : g.panel.modules = [])
    (hsaved : g.panel.server? e.after.id = some e.after) :
    (g.follow machine e).store = g.store := by
  rw [follow_eq hmodules hsaved, store_updateServer]
  rfl

theorem keeps_follow : g.Keeps (g.follow machine e) :=
  keeps_applyEvent _

section Following

variable (hmodules : g.panel.modules = [])
  (hsaved : g.panel.server? e.after.id = some e.after) (hl : g.ports.Lawful g.config)
  (hu : g.ports.Unshared) (horigin : ∀ k e, g.ports.get? k = some e → e.origin ≠ .module)

/-- Lawful ports are so without the former route. -/
theorem lawful_forget (hl : g.ports.Lawful g.config) : (g.forget e).ports.Lawful g.config :=
  (keeps_removeHostname.2 hl).1

/-- Taking the former route closes no port, since that happens to module ports only. -/
theorem sameShape_forget (horigin : ∀ k e, g.ports.get? k = some e → e.origin ≠ .module) :
    g.ports.SameShape (g.forget e).ports :=
  sameShape_removeHostname horigin

include hmodules hsaved horigin

/-- **Following an edit opens and closes no port.** -/
theorem sameShape_follow : g.ports.SameShape (g.follow machine e).ports := by
  rw [follow_eq hmodules hsaved]
  have hshape := sameShape_forget (e := e) horigin
  exact hshape.trans sameShape_updateServer

include hl hu

/-- What following an edit does under a key that is not to lead to the server: it removes the route
or leaves it alone. -/
theorem route?_follow (hk : g.ports.listenerAt k = some l)
    (hne : ∀ r, routeFor? g.config machine e.after = some (l, r) → r.key ≠ key) :
    (g.follow machine e).ports.route? k key =
      if e.Removes g.config l key then none else g.ports.route? k key := by
  have hk₁ : (g.forget e).ports.listenerAt k = some l := by
    rw [← (sameShape_forget horigin).listenerAt_eq, hk]
  have hforget : (g.forget e).ports.route? k key =
      if (e.before.listener = none ∨ e.before.listener = some l) ∧
        Route.Key.normalize (g.config.hostnames.hostname e.before) = key then none
      else g.ports.route? k key := route?_removeHostname hl hk
  rw [follow_eq hmodules hsaved]
  cases hroutable : e.after.status.isRoutable with
  | true =>
    have hsame : ((g.forget e).updateServer machine e.after).2.ports.route? k key =
        (g.forget e).ports.route? k key := by
      cases hr : routeFor? g.config machine e.after with
      | none => rw [updateServer_of_isRoutable (g := g.forget e) hroutable hr]
      | some lr =>
        refine route?_updateServer_of_ne (lawful_forget hl) ((sameShape_forget horigin).unshared hu)
          hr hk₁ ?_
        rintro ⟨rfl, hkey⟩
        exact hne lr.2 hr hkey
    rw [hsame, hforget]
    simp only [Edit.Removes, hroutable, reduceCtorEq, false_and, or_false]
  | false =>
    rw [updateServer_of_not_isRoutable hroutable]
    cases hlistener : e.after.listener with
    | none =>
      refine hforget.trans ?_
      simp only [Edit.Removes, hlistener, reduceCtorEq, false_and, and_false, or_false]
    | some l' =>
      refine (route?_removeHostname (lawful_forget hl) hk₁).trans ?_
      rw [hforget]
      simp only [Edit.Removes, hroutable, hlistener, reduceCtorEq, false_or, true_and]
      split
      · next hnew => exact (if_pos (.inr hnew)).symm
      · next hnew =>
        change ¬(some l' = some l ∧
          Route.Key.normalize (g.config.hostnames.hostname e.after) = key) at hnew
        simp only [hnew, or_false]

/-- A server that is to have a route gets it if its key is free when the former host is gone. -/
theorem route?_follow_self (hr : routeFor? g.config machine e.after = some (l, r))
    (hk : g.ports.listenerAt k = some l)
    (hfree : e.Removes g.config l r.key ∨ g.ports.route? k r.key = none) :
    (g.follow machine e).ports.route? k r.key = some r := by
  have hshape := sameShape_forget (e := e) horigin
  rw [follow_eq hmodules hsaved]
  refine route?_updateServer_self (lawful_forget hl) (hshape.unshared hu) hr
    (hshape.listenerAt_eq.symm.trans hk) ?_
  have hforget : (g.forget e).ports.route? k r.key =
      if (e.before.listener = none ∨ e.before.listener = some l) ∧
        Route.Key.normalize (g.config.hostnames.hostname e.before) = r.key then none
      else g.ports.route? k r.key := route?_removeHostname hl hk
  rw [hforget]
  rcases hfree with (hremoves | ⟨hroutable, -⟩) | hnone
  · exact if_pos hremoves
  · rw [(routeFor?_eq_some.mp hr).2.1] at hroutable
    cases hroutable
  · rw [hnone, ite_self]

end Following

/-! ### While events are still to come -/

/-- A server is **up to date** when the event of no edit of it is pending. -/
def UpToDate (pending : List Edit) (s : Server) : Prop :=
  ∀ e ∈ pending, e.after.id ≠ s.id

/-- Ports **track** servers, of which some have been edited, when each server that is up to date has
its route, and every other route is the one that a server had before an edit that is pending. -/
structure Tracks (config : Config) (machine : Machine) (servers : List Server)
    (pending : List Edit) (p : Ports) : Prop where
  set : ∀ {s k l r}, s ∈ servers → UpToDate pending s → p.listenerAt k = some l →
    routeFor? config machine s = some (l, r) → p.route? k r.key = some r
  only : ∀ {k key r}, p.route? k key = some r → ∃ l s, p.listenerAt k = some l ∧
    routeFor? config machine s = some (l, r) ∧ r.key = key ∧
    (s ∈ servers ∧ UpToDate pending s ∨ ∃ e ∈ pending, e.before = s)

/-- When no event is pending, the servers are served. -/
theorem Tracks.serves {p : Ports} (h : Tracks config machine servers [] p) :
    Serves config machine servers p := by
  intro k key r
  constructor
  · intro hr
    obtain ⟨l, s, hk, hrs, hkey, ⟨hs, -⟩ | ⟨e, he, -⟩⟩ := h.only hr
    · exact ⟨l, hk, s, hs, hrs, hkey⟩
    · cases he
  · rintro ⟨l, hk, s, hs, hrs, rfl⟩
    exact h.set hs (fun e he => by cases he) hk hrs

/-- What an edit that does not spoil anything removes is no other server's route. -/
theorem not_removes_of_not_spoils {p : Ports} (hu : p.Unshared)
    (he : ¬e.Spoils config machine p servers) (hs : s ∈ servers) (hne : s.id ≠ e.after.id)
    (hk : p.listenerAt k = some l) (hr : routeFor? config machine s = some (l, r)) :
    ¬e.Removes config l r.key := by
  intro hremoves
  have hopen : (p.portOf? l).isSome := Option.isSome_of_mem (hu.portOf?_eq_some.mpr hk)
  exact he ⟨s, hs, hne, (l, r), hr, hopen, hremoves⟩

section Step

variable {pending : List Edit} (hmodules : g.panel.modules = [])
  (hids : Distinct (·.id) g.panel.servers)
  (hclear : Unambiguous g.config machine g.panel.servers) (hl : g.ports.Lawful g.config)
  (hu : g.ports.Unshared) (horigin : ∀ k e, g.ports.get? k = some e → e.origin ≠ .module)
  (hedits : Distinct (·.after.id) (e :: pending))
  (hspoils : ∀ a ∈ e :: pending, ¬a.Spoils g.config machine g.ports g.panel.servers)
  (he : e.after ∈ g.panel.servers)
  (ht : Tracks g.config machine g.panel.servers (e :: pending) g.ports)

include hclear hu hedits hspoils he ht

/-- The key of an edited server is free when its event has removed what it removes. -/
theorem removes_or_route?_eq_none (hr : routeFor? g.config machine e.after = some (l, r))
    (hk : g.ports.listenerAt k = some l) :
    e.Removes g.config l r.key ∨ g.ports.route? k r.key = none := by
  cases hroute : g.ports.route? k r.key with
  | none => exact .inr rfl
  | some r' =>
    obtain ⟨l', s, hk', hrs, hkey, ⟨hs, hdone⟩ | ⟨a, ha, rfl⟩⟩ := ht.only hroute
    all_goals obtain rfl := Option.some.inj (hk.symm.trans hk')
    · -- a server that is up to date would want the same key
      obtain rfl := hclear.eq_of_key_eq hs he hrs hr hkey
      exact absurd rfl (hdone e List.mem_cons_self)
    · rcases List.mem_cons.mp ha with rfl | hpending
      · exact .inl (hkey ▸ Edit.removes_before hrs)
      · have hid := (List.pairwise_cons.mp hedits).1 a hpending
        have hno := not_removes_of_not_spoils hu (hspoils a ha) he hid hk hr
        exact absurd (hkey ▸ Edit.removes_before hrs) hno

include hmodules hids hl horigin

/-- The edited server gets its route. -/
theorem route?_follow_edited (hr : routeFor? g.config machine e.after = some (l, r))
    (hk : g.ports.listenerAt k = some l) :
    (g.follow machine e).ports.route? k r.key = some r :=
  route?_follow_self hmodules (hids.find?_eq_some he) hl hu horigin hr hk
    (removes_or_route?_eq_none hclear hu hedits hspoils he ht hr hk)

/-- The servers that are up to date behind the event have their routes. -/
theorem set_follow (hs : s ∈ g.panel.servers) (hdone : UpToDate pending s)
    (hk : g.ports.listenerAt k = some l) (hr : routeFor? g.config machine s = some (l, r)) :
    (g.follow machine e).ports.route? k r.key = some r := by
  by_cases hid : e.after.id = s.id
  · obtain rfl := hids.eq_of_mem he hs hid
    exact route?_follow_edited hmodules hids hclear hl hu horigin hedits hspoils he ht hr hk
  · have hne : ∀ r', routeFor? g.config machine e.after = some (l, r') → r'.key ≠ r.key := by
      intro r' hr' hkey
      exact hid (congrArg Server.id (hclear.eq_of_key_eq he hs hr' hr hkey))
    have hkept := not_removes_of_not_spoils hu (hspoils e List.mem_cons_self) hs (Ne.symm hid)
      hk hr
    rw [route?_follow hmodules (hids.find?_eq_some he) hl hu horigin hk hne, if_neg hkept]
    exact ht.set hs (List.forall_mem_cons.mpr ⟨hid, hdone⟩) hk hr

/-- A route behind the event belongs to a server that is up to date, or to an edit that is still
pending. -/
theorem only_follow (hk : g.ports.listenerAt k = some l)
    (hroute : (g.follow machine e).ports.route? k key = some r) :
    ∃ s, routeFor? g.config machine s = some (l, r) ∧ r.key = key ∧
      (s ∈ g.panel.servers ∧ UpToDate pending s ∨ ∃ a ∈ pending, a.before = s) := by
  by_cases hself : ∃ r', routeFor? g.config machine e.after = some (l, r') ∧ r'.key = key
  · obtain ⟨r', hr', rfl⟩ := hself
    rw [route?_follow_edited hmodules hids hclear hl hu horigin hedits hspoils he ht hr' hk]
      at hroute
    obtain rfl := Option.some.inj hroute
    refine ⟨e.after, hr', rfl, .inl ⟨he, fun a ha => ?_⟩⟩
    exact ((List.pairwise_cons.mp hedits).1 a ha).symm
  · have hne : ∀ r', routeFor? g.config machine e.after = some (l, r') → r'.key ≠ key :=
      fun r' hr' hkey => hself ⟨r', hr', hkey⟩
    rw [route?_follow hmodules (hids.find?_eq_some he) hl hu horigin hk hne] at hroute
    split at hroute
    · cases hroute
    · next hkept =>
      obtain ⟨l', s, hk', hrs, hkey, hs⟩ := ht.only hroute
      obtain rfl := Option.some.inj (hk.symm.trans hk')
      refine ⟨s, hrs, hkey, hs.imp ?_ ?_⟩
      · exact And.imp_right fun hdone => (List.forall_mem_cons.mp hdone).2
      · -- the route of the edit that is followed has been removed
        rintro ⟨a, ha, rfl⟩
        rcases List.mem_cons.mp ha with rfl | ha
        · exact absurd (hkey ▸ Edit.removes_before hrs) hkept
        · exact ⟨a, ha, rfl⟩

/-- **Following an edit that spoils nothing keeps track.** -/
theorem Tracks.follow :
    Tracks g.config machine g.panel.servers pending (g.follow machine e).ports := by
  have hshape : g.ports.SameShape (g.follow machine e).ports :=
    sameShape_follow hmodules (hids.find?_eq_some he) horigin
  constructor
  · intro s k l r hs hdone hk hr
    rw [← hshape.listenerAt_eq] at hk
    exact set_follow hmodules hids hclear hl hu horigin hedits hspoils he ht hs hdone hk hr
  · intro k key r hroute
    obtain ⟨l, hk⟩ : ∃ l, (g.follow machine e).ports.listenerAt k = some l :=
      Ports.exists_listenerAt_of_route? (hshape.origin_ne horigin) hroute
    obtain ⟨s, hrs, hkey, hs⟩ := only_follow hmodules hids hclear hl hu horigin hedits hspoils he ht
      (hshape.listenerAt_eq.trans hk) hroute
    exact ⟨l, s, hk, hrs, hkey, hs⟩

end Step

/-! ### All events -/

section Run

variable {panel' : Panel} (hu : g.ports.Unshared)
  (horigin : ∀ k e, g.ports.get? k = some e → e.origin ≠ .module)
  (hids : Distinct (·.id) panel'.servers)

include horigin hids

/-- Following edits that have been saved changes neither the store nor the shape of the ports. -/
theorem Drifts.foldl_follow : ∀ (order : List Edit) (g' : Gateway), g.Drifts g' →
    g'.panel = panel' → (∀ e ∈ order, e.after ∈ panel'.servers) →
    g.Drifts (order.foldl (follow machine) g') ∧
      (order.foldl (follow machine) g').panel = panel'
  | [], _, hd, hpanel, _ => ⟨hd, hpanel⟩
  | e :: rest, g', hd, hpanel, hsaved => by
    have he : g'.panel.server? e.after.id = some e.after := by
      rw [hpanel]
      exact hids.find?_eq_some (hsaved e List.mem_cons_self)
    have hstore : (g'.follow machine e).store = g'.store := store_follow hd.modules he
    have hl' : g'.ports.Lawful g'.config := hd.config ▸ hd.lawful
    have hstep : g.Drifts (g'.follow machine e) := {
      config := keeps_follow.1.trans hd.config
      listeners := by rw [panel, hstore]; exact hd.listeners
      modules := by rw [panel, hstore]; exact hd.modules
      lawful := hd.config ▸ (keeps_follow.2 hl').1
      shape := hd.shape.trans (sameShape_follow hd.modules he (hd.shape.origin_ne horigin)) }
    refine foldl_follow rest _ hstep ?_ fun a ha => hsaved a (List.mem_cons_of_mem e ha)
    rw [panel, hstore]
    exact hpanel

include hu

/-- **Following edits that spoil nothing keeps track**, and all servers are served in the end. -/
theorem Tracks.foldl_follow (hclear : Unambiguous g.config machine panel'.servers) :
    ∀ (order : List Edit) (g' : Gateway), g.Drifts g' → g'.panel = panel' →
    (∀ e ∈ order, e.after ∈ panel'.servers) → Distinct (·.after.id) order →
    (∀ e ∈ order, ¬e.Spoils g.config machine g.ports panel'.servers) →
    Tracks g.config machine panel'.servers order g'.ports →
    Tracks g.config machine panel'.servers [] (order.foldl (Gateway.follow machine) g').ports
  | [], _, _, _, _, _, _, ht => ht
  | e :: rest, g', hd, hpanel, hsaved, hedits, hspoils, ht => by
    have hrest : ∀ a ∈ rest, a.after ∈ panel'.servers :=
      fun a ha => hsaved a (List.mem_cons_of_mem e ha)
    have hone : g.Drifts (g'.follow machine e) ∧ (g'.follow machine e).panel = panel' :=
      Drifts.foldl_follow horigin hids [e] g' hd hpanel
        fun a ha => hsaved a (List.mem_singleton.mp ha ▸ List.mem_cons_self)
    have hspoils' : ∀ a ∈ e :: rest,
        ¬a.Spoils g'.config machine g'.ports g'.panel.servers := by
      intro a ha hspoilt
      refine hspoils a ha ?_
      rw [hd.config, hpanel] at hspoilt
      obtain ⟨s, hs, hne, lr, hr, hopen, hremoves⟩ := hspoilt
      rw [← hd.shape.portOf?_eq] at hopen
      exact ⟨s, hs, hne, lr, hr, hopen, hremoves⟩
    refine foldl_follow hclear rest _ hone.1 hone.2 hrest (List.pairwise_cons.mp hedits).2
      (fun a ha => hspoils a (List.mem_cons_of_mem e ha)) ?_
    have hstep : Tracks g'.config machine g'.panel.servers rest (g'.follow machine e).ports :=
      Tracks.follow hd.modules (hpanel ▸ hids) (hd.config ▸ hpanel ▸ hclear) (hd.config ▸ hd.lawful)
      (hd.shape.unshared hu) (hd.shape.origin_ne horigin) hedits hspoils'
      (hpanel ▸ hsaved e List.mem_cons_self) (hd.config ▸ hpanel ▸ ht)
    rw [hd.config, hpanel] at hstep
    exact hstep

end Run

/-- The servers behind edits that have been saved. -/
theorem mem_servers_iff {edits : List Edit} {store store' : Store}
    (hids : Distinct (·.id) store.panel.servers) (hedits : Distinct (·.after.id) edits)
    (hsaved : store.saveServers (edits.map (·.after)) = (.ok (), store')) :
    s ∈ store'.panel.servers ↔
      (∃ e ∈ edits, e.after = s) ∨ s ∈ store.panel.servers ∧ UpToDate edits s := by
  rw [Store.panel_of_saveServers_eq_ok _ _ _ hsaved]
  refine (mem_foldl_upsert (List.pairwise_map.mpr hedits) hids).trans ?_
  rw [List.mem_map, List.forall_mem_map]
  rfl

/-- It is of no account in which order the remaining edits are listed. -/
theorem Tracks.perm {p : Ports} {order edits : List Edit} (hperm : order.Perm edits)
    (h : Tracks config machine servers edits p) : Tracks config machine servers order p where
  set hs hdone := h.set hs fun e he => hdone e (hperm.mem_iff.mpr he)
  only hr := by
    obtain ⟨l, s, hk, hrs, hkey, hs⟩ := h.only hr
    refine ⟨l, s, hk, hrs, hkey, hs.imp ?_ ?_⟩
    · exact And.imp_right fun hdone e he => hdone e (hperm.mem_iff.mp he)
    · rintro ⟨e, he, rfl⟩
      exact ⟨e, hperm.mem_iff.mpr he, rfl⟩

/-- Ports that serve servers track them when some have been edited. -/
theorem Serves.tracks {p : Ports} {edits : List Edit} {store store' : Store}
    (h : Serves config machine store.panel.servers p)
    (hids : Distinct (·.id) store.panel.servers)
    (hbefore : ∀ e ∈ edits, e.before ∈ store.panel.servers)
    (hedits : Distinct (·.after.id) edits)
    (hsaved : store.saveServers (edits.map (·.after)) = (.ok (), store')) :
    Tracks config machine store'.panel.servers edits p := by
  constructor
  · intro s k l r hs hdone hk hr
    rcases (mem_servers_iff hids hedits hsaved).mp hs with ⟨e, he, rfl⟩ | ⟨hs, -⟩
    · exact absurd rfl (hdone e he)
    · exact (h k r.key r).mpr ⟨l, hk, s, hs, hr, rfl⟩
  · intro k key r hroute
    obtain ⟨l, hk, s, hs, hr, hkey⟩ := (h k key r).mp hroute
    refine ⟨l, s, hk, hr, hkey, ?_⟩
    by_cases hdone : UpToDate edits s
    · exact .inl ⟨(mem_servers_iff hids hedits hsaved).mpr (.inr ⟨hs, hdone⟩), hdone⟩
    · simp only [UpToDate, Classical.not_forall, Classical.not_not] at hdone
      obtain ⟨e, he, hid⟩ := hdone
      exact .inr ⟨e, he, hids.eq_of_mem (hbefore e he) hs (e.same.symm.trans hid)⟩

/-- Servers of a settled gateway without modules have been **edited** when the edits are of
different servers of its store, all of them have been saved, and the servers that are to have routes
want different keys on each listener, before the edits as well as behind them. -/
structure Edited (machine : Machine) (g : Gateway) (edits : List Edit) (store' : Store) : Prop where
  reachable : g.Reachable
  sound : g.panel.Sound
  modules : g.panel.modules = []
  settled : g.Settled machine
  before : ∀ e ∈ edits, e.before ∈ g.panel.servers
  distinct : Distinct (·.after.id) edits
  saved : g.store.saveServers (edits.map (·.after)) = (.ok (), store')
  clearBefore : Unambiguous g.config machine g.panel.servers
  clear : Unambiguous g.config machine store'.panel.servers

namespace Edited

variable {edits order : List Edit} {store' : Store} (h : Edited machine g edits store')

include h

/-- No listener of a settled gateway has two ports. -/
theorem unshared : g.ports.Unshared :=
  h.settled.unshared h.reachable.lawful h.modules

/-- Where there are no modules, no port is a module port. -/
theorem origin_ne (k : UInt16) (entry : Entry) (hk : g.ports.get? k = some entry) :
    entry.origin ≠ .module :=
  h.settled.origin_ne h.reachable.lawful h.modules h.clearBefore hk

theorem ids : Distinct (·.id) store'.panel.servers := by
  rw [Store.panel_of_saveServers_eq_ok _ _ _ h.saved]
  exact h.sound.servers.foldl_upsert

/-- The record behind each edit is in the store. -/
theorem after_mem (he : e ∈ edits) : e.after ∈ store'.panel.servers :=
  (mem_servers_iff h.sound.servers h.distinct h.saved).mpr (.inl ⟨e, he, rfl⟩)

/-- Saving the edits alone leaves the ports as they were. -/
theorem drifts : g.Drifts { g with store := store' } := by
  have hstore := Store.panel_of_saveServers_eq_ok _ _ _ h.saved
  constructor
  case config => rfl
  case listeners =>
    rw [panel, hstore]
    rfl
  case modules =>
    rw [panel, hstore]
    exact h.modules
  case lawful => exact h.reachable.lawful
  case shape => exact .refl

/-- **However many events have been followed**, the gateway has drifted in its routes only. -/
theorem drifts_foldl (hsub : ∀ e ∈ order, e ∈ edits) :
    g.Drifts (order.foldl (follow machine) { g with store := store' }) ∧
      (order.foldl (follow machine) { g with store := store' }).panel = store'.panel :=
  Drifts.foldl_follow h.origin_ne h.ids order _ h.drifts rfl
    fun _ he => h.after_mem (hsub _ he)

/-- Behind the events, the gateway is settled exactly when it serves the edited servers. -/
theorem settled_iff_serves (hperm : order.Perm edits) :
    (order.foldl (follow machine) { g with store := store' }).Settled machine ↔
      Serves g.config machine store'.panel.servers
        (order.foldl (follow machine) { g with store := store' }).ports := by
  obtain ⟨hd, hpanel⟩ := h.drifts_foldl fun e he => hperm.mem_iff.mp he
  have hiff := hd.settled_iff_serves h.reachable.lawful h.modules h.clearBefore h.settled
    (hpanel ▸ h.clear)
  rwa [hpanel] at hiff

/-- If no edit spoils a route, the gateway is settled behind the events, in any order of these. -/
theorem settled_of_not_spoils
    (hspoils : ∀ e ∈ edits, ¬e.Spoils g.config machine g.ports store'.panel.servers)
    (hperm : order.Perm edits) :
    (order.foldl (follow machine) { g with store := store' }).Settled machine := by
  have hmem : ∀ e ∈ order, e ∈ edits := fun e he => hperm.mem_iff.mp he
  have hserves := h.settled.serves h.reachable.lawful h.modules h.clearBefore
  have htracks : Tracks g.config machine store'.panel.servers edits g.ports :=
    hserves.tracks h.sound.servers h.before h.distinct h.saved
  refine (h.settled_iff_serves hperm).mpr (Tracks.serves ?_)
  exact Tracks.foldl_follow h.unshared h.origin_ne h.ids h.clear
    order _ h.drifts rfl (fun e he => h.after_mem (hmem e he))
    (hperm.symm.pairwise h.distinct Ne.symm) (fun e he => hspoils e (hmem e he))
    (htracks.perm hperm)

/-- A gateway is not settled when the event of an edit that spoils a route comes last. -/
theorem not_settled_of_spoils {others : List Edit} (hperm : (others ++ [e]).Perm edits)
    (hspoils : e.Spoils g.config machine g.ports store'.panel.servers) :
    ¬((others ++ [e]).foldl (follow machine) { g with store := store' }).Settled machine := by
  intro hsettled
  have hmem : ∀ a ∈ others ++ [e], a ∈ edits := fun a ha => hperm.mem_iff.mp ha
  have he : e.after ∈ store'.panel.servers :=
    h.after_mem (hmem e (List.mem_append_right others (List.mem_singleton_self e)))
  obtain ⟨s, hs, hne, ⟨l, r⟩, hr, hopen, hremoves⟩ := hspoils
  obtain ⟨k, hport⟩ := Option.isSome_iff_exists.mp hopen
  have hk := h.unshared.portOf?_eq_some.mp hport
  have hroute := ((h.settled_iff_serves hperm).mp hsettled k r.key r).mpr
    ⟨l, (h.drifts_foldl hmem).1.shape.listenerAt_eq.symm.trans hk, s, hs, hr, rfl⟩
  obtain ⟨hd, hpanel⟩ := h.drifts_foldl fun a ha => hmem a (List.mem_append_left [e] ha)
  rw [List.foldl_append, List.foldl_cons, List.foldl_nil] at hroute
  generalize others.foldl (follow machine) { g with store := store' } = g' at *
  have hsaved : g'.panel.server? e.after.id = some e.after := by
    rw [hpanel]
    exact h.ids.find?_eq_some he
  -- the edited server itself is not to have a route under the key
  have hother : ∀ r', routeFor? g'.config machine e.after = some (l, r') → r'.key ≠ r.key := by
    intro r' hr' hkey
    rw [hd.config] at hr'
    exact hne (congrArg Server.id (h.clear.eq_of_key_eq hs he hr hr' hkey.symm))
  rw [route?_follow hd.modules hsaved (hd.config ▸ hd.lawful) (hd.shape.unshared h.unshared)
    (hd.shape.origin_ne h.origin_ne) (hd.shape.listenerAt_eq.symm.trans hk) hother,
    if_pos (hd.config ▸ hremoves)] at hroute
  cases hroute

end Edited

/-- **Following the edits of servers.** When servers have been edited and the gateway follows their
events, it is settled again whatever the order of these exactly when no edit spoils the route of
another server. -/
theorem settled_after_edits_iff (g : Gateway) (machine : Machine) (edits : List Edit)
    (store' : Store) (h : Edited machine g edits store') :
    (∀ order : List Edit, order.Perm edits →
      (order.foldl (follow machine) { g with store := store' }).Settled machine) ↔
    ∀ e ∈ edits, ¬e.Spoils g.config machine g.ports store'.panel.servers := by
  constructor
  · intro hall e he hspoils
    obtain ⟨front, back, rfl⟩ := List.append_of_mem he
    have hlast : (front ++ back ++ [e]).Perm (front ++ e :: back) := by
      rw [List.append_assoc]
      exact (List.perm_append_singleton e back).append_left front
    exact h.not_settled_of_spoils hlast hspoils (hall _ hlast)
  · exact fun hspoils order => h.settled_of_not_spoils hspoils

/-- A server that gets another host and one that is stopped, on one listener. -/
theorem settled_after_move_and_stop :
    let machine : Machine := {
      address := fun _ _ => .ok (.v4 #v[172, 18, 0, 2]), bindFault := fun _ => none }
    let listener : Listener := { id := ⟨.ofNat 1⟩, port := 25565, name := "main" }
    let a (hostname : String) : Server := {
      id := ⟨.ofNat 2⟩, name := "a", container := some "a", status := .running
      hostname := some hostname, listener := some listener.id }
    let b (status : Status) : Server := {
      id := ⟨.ofNat 3⟩, name := "b", container := some "b", status
      hostname := some "b.example", listener := some listener.id }
    let panel : Panel := {
      version := 1, listeners := [listener], servers := [a "a.example", b .running] }
    let g := (new {} (.ofPanel panel)).after [.call machine .start]
    let edits : List Edit :=
      [⟨a "a.example", a "c.example", rfl⟩, ⟨b .running, b .stopped, rfl⟩]
    let store' := (g.store.saveServers (edits.map (·.after))).2
    Edited machine g edits store' ∧ ∀ order : List Edit, order.Perm edits →
      (order.foldl (follow machine) { g with store := store' }).Settled machine := by
  intro machine listener a b panel g edits store'
  have hedited : Edited machine g edits store' := {
    reachable := ⟨_, _, _, rfl⟩
    sound := by decide +kernel
    modules := rfl
    settled := by decide +kernel
    before := by decide +kernel
    distinct := by decide +kernel
    saved := rfl
    clearBefore := by decide +kernel
    clear := by decide +kernel }
  exact ⟨hedited, (settled_after_edits_iff g machine edits _ hedited).mpr (by decide +kernel)⟩

/-- The event of a server that is not running takes the route of another one with the same host
away, though no two servers that are to have routes want the same key. -/
theorem not_settled_after_edit :
    let machine : Machine := {
      address := fun _ _ => .ok (.v4 #v[172, 18, 0, 2]), bindFault := fun _ => none }
    let listener : Listener := { id := ⟨.ofNat 1⟩, port := 25565, name := "main" }
    let a (hostname : String) : Server := {
      id := ⟨.ofNat 2⟩, name := "a", container := some "a", status := .stopped
      hostname := some hostname, listener := some listener.id }
    let b : Server := {
      id := ⟨.ofNat 3⟩, name := "b", container := some "b", status := .running
      hostname := some "play.example", listener := some listener.id }
    let panel : Panel := {
      version := 1, listeners := [listener], servers := [a "play.example", b] }
    let g := (new {} (.ofPanel panel)).after [.call machine .start]
    let edit : Edit := ⟨a "play.example", a "old.example", rfl⟩
    let store' := (g.store.saveServer edit.after).2
    g.Settled machine ∧ Unambiguous {} machine g.panel.servers ∧
      Unambiguous {} machine store'.panel.servers ∧
      ¬(follow machine { g with store := store' } edit).Settled machine := by
  decide +kernel

end Gateway

end GameGateway
