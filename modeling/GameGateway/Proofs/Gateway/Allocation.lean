import GameGateway.Gateway.Basic
import GameGateway.Proofs.Store.Records
import Mathlib.Data.List.Pairwise

/-!
# Ports that are set aside for servers

The port that a server gets is the lowest of the range that no other server has, and there is none
just when others have all of them (`allocates_lowest`). So a run that sets ports aside never gives
one port to two servers: what carries the induction is `PortsApart`, which speaks of servers by
their identifiers. The ports of a document are also distinct as a list if its identifiers are, and
otherwise need not be: two records with one identifier are one server, to which the same port is
given again (`not_nodup_of_twins`).
-/

namespace GameGateway

/-! ### Ports of a range -/

namespace PortRange

variable (range : PortRange) (p : UInt16 → Bool) (port : UInt16)

/-- The ports of a range are counted from its first one, without overflow. -/
theorem toNat_ofNat_first_add {i : Nat} (h : i < range.last.toNat + 1 - range.first.toNat) :
    (UInt16.ofNat (range.first.toNat + i)).toNat = range.first.toNat + i := by
  have hlast := range.last.toNat_lt
  exact UInt16.toNat_ofNat_of_lt' (show range.first.toNat + i < 2 ^ 16 by omega)

theorem mem_ports : port ∈ range.ports ↔ range.first ≤ port ∧ port ≤ range.last := by
  simp only [ports, List.mem_map, List.mem_range, UInt16.le_iff_toNat_le]
  constructor
  · rintro ⟨i, hi, rfl⟩
    rw [range.toNat_ofNat_first_add hi]
    omega
  · rintro ⟨hfirst, hlast⟩
    refine ⟨port.toNat - range.first.toNat, by omega, ?_⟩
    rw [Nat.add_sub_cancel' hfirst, UInt16.ofNat_toNat]

theorem find?_ports_eq_none :
    range.ports.find? p = none ↔
      ∀ port, range.first ≤ port → port ≤ range.last → p port = false := by
  simp only [List.find?_eq_none, mem_ports, and_imp, Bool.not_eq_true]

/-- What is found in a range is the lowest port of its kind. -/
theorem find?_ports_eq_some :
    range.ports.find? p = some port ↔
      (range.first ≤ port ∧ port ≤ range.last) ∧ p port = true ∧
        ∀ lower, range.first ≤ lower → lower < port → p lower = false := by
  simp only [UInt16.le_iff_toNat_le, UInt16.lt_iff_toNat_lt]
  rw [ports, List.find?_map, Option.map_eq_some_iff]
  simp only [List.find?_range_eq_some, List.mem_range, Function.comp_apply, Bool.not_eq_true']
  constructor
  · rintro ⟨i, ⟨hp, hi, hlower⟩, rfl⟩
    rw [range.toNat_ofNat_first_add hi]
    refine ⟨by omega, hp, fun lower hfirst hlt => ?_⟩
    have h := hlower (lower.toNat - range.first.toNat) (by omega)
    rwa [Nat.add_sub_cancel' hfirst, UInt16.ofNat_toNat] at h
  · rintro ⟨⟨hfirst, hlast⟩, hp, hlower⟩
    have hport : UInt16.ofNat (range.first.toNat + (port.toNat - range.first.toNat)) = port := by
      rw [Nat.add_sub_cancel' hfirst, UInt16.ofNat_toNat]
    refine ⟨port.toNat - range.first.toNat, ⟨by rwa [hport], by omega, fun j hj => ?_⟩, hport⟩
    have hj' := range.toNat_ofNat_first_add (i := j) (by omega)
    exact hlower _ (by omega) (by omega)

end PortRange

/-! ### Ports of servers -/

namespace Panel

variable {p : Panel} {server : ServerId} {port : UInt16}

/-- A port is **taken** for a server when another one has it. -/
def Taken (p : Panel) (server : ServerId) (port : UInt16) : Prop :=
  ∃ other ∈ p.servers, other.id ≠ server ∧ other.proxyPort = some port

instance : Decidable (p.Taken server port) :=
  inferInstanceAs (Decidable (∃ other ∈ p.servers, other.id ≠ server ∧ other.proxyPort = some port))

/-- Servers have their ports **apart** when no two of them have the same. -/
def PortsApart (p : Panel) : Prop :=
  ∀ a ∈ p.servers, ∀ b ∈ p.servers, ∀ port, a.proxyPort = some port → b.proxyPort = some port →
    a.id = b.id

/-- All ports that are set aside, in the order of the servers. -/
def proxyPorts (p : Panel) : List UInt16 :=
  p.servers.filterMap (·.proxyPort)

/-- Ports that are distinct as a list are apart, for a record has no more than one. -/
theorem portsApart_of_nodup (h : p.proxyPorts.Nodup) : p.PortsApart := by
  rw [proxyPorts, List.Nodup, List.pairwise_filterMap] at h
  intro a ha b hb port haport hbport
  have hsymm : Std.Symm fun a b : Server =>
      ∀ port, a.proxyPort = some port → ∀ port', b.proxyPort = some port' → port ≠ port' :=
    ⟨fun _ _ hab port hport port' hport' => (hab port' hport' port hport).symm⟩
  refine Decidable.byContradiction fun hne => ?_
  exact h.forall ha hb (fun heq => hne (congrArg Server.id heq)) port haport port hbport rfl

/-- Ports that are apart are distinct as a list if identifiers are distinct. -/
theorem PortsApart.nodup (h : p.PortsApart) (hids : Distinct (·.id) p.servers) :
    p.proxyPorts.Nodup := by
  rw [proxyPorts, List.Nodup, List.pairwise_filterMap]
  refine hids.imp_of_mem fun {a b} ha hb hne port haport port' hbport heq => ?_
  exact hne (h a ha b hb port haport (heq ▸ hbport))

/-- A server can be saved with a port that is not taken for it. -/
theorem PortsApart.saveServer {p' : Panel} {s : Server} (h : p.PortsApart)
    (hfree : ∀ port ∈ s.proxyPort, ¬p.Taken s.id port) (hok : p.saveServer s = .ok p') :
    p'.PortsApart := by
  obtain ⟨-, rfl⟩ := saveServer_eq_ok_iff.mp hok
  -- a record that has the port of the new one is of the same server
  have hsame : ∀ b ∈ p.servers, ∀ port, s.proxyPort = some port → b.proxyPort = some port →
      b.id = s.id := fun b hb port hport hbport =>
    Decidable.byContradiction fun hne => hfree port hport ⟨b, hb, hne, hbport⟩
  intro a ha b hb port haport hbport
  rcases mem_of_mem_upsert ha with rfl | hmem
  · rcases mem_of_mem_upsert hb with rfl | hmem
    · rfl
    · exact (hsame b hmem port haport hbport).symm
  · rcases mem_of_mem_upsert hb with rfl | hmem'
    · exact hsame a hmem port hbport haport
    · exact h a hmem b hmem' port haport hbport

/-- Which ports are taken for a server depends on the other servers only. -/
theorem taken_iff : p.Taken server port ↔
    port ∈ (p.servers.filter (·.id ≠ server)).filterMap (·.proxyPort) := by
  simp [Taken, and_assoc]

theorem taken_of_saveServer {p' : Panel} {s : Server} (hok : p.saveServer s = .ok p') :
    p'.Taken s.id port ↔ p.Taken s.id port := by
  obtain ⟨servers, hputs, rfl⟩ := puts_saveServer hok
  rw [taken_iff, taken_iff, hputs.others]

end Panel

/-! ### Setting ports aside -/

namespace Gateway

variable {g : Gateway} {server : ServerId} {port : UInt16}

theorem allocatePort_eq : g.allocatePort server =
    match g.config.ports.ports.find? fun port => !decide (g.panel.Taken server port) with
    | some port => .ok port
    | none => .error (.rangeExhausted g.config.ports) := by
  have hfree : (fun port => !decide (g.panel.Taken server port)) = fun port =>
      decide (port ∉ (g.panel.servers.filter (·.id ≠ server)).filterMap (·.proxyPort)) := by
    funext port
    rw [← decide_not]
    exact decide_eq_decide.mpr (not_congr Panel.taken_iff)
  rw [hfree]
  rfl

/-- **The port that is given to a server** is the lowest one that is not taken for it. -/
theorem allocatePort_eq_ok_iff : g.allocatePort server = .ok port ↔
    (g.config.ports.first ≤ port ∧ port ≤ g.config.ports.last) ∧ ¬g.panel.Taken server port ∧
      ∀ lower, g.config.ports.first ≤ lower → lower < port → g.panel.Taken server lower := by
  have hfind := g.config.ports.find?_ports_eq_some
    (fun port => !decide (g.panel.Taken server port)) port
  simp only [Bool.not_eq_true', Bool.not_eq_false', decide_eq_true_eq, decide_eq_false_iff_not]
    at hfind
  rw [allocatePort_eq, ← hfind]
  cases g.config.ports.ports.find? fun port => !decide (g.panel.Taken server port) with
  | none => exact iff_of_false nofun nofun
  | some found => rw [Except.ok.injEq, Option.some.injEq]

/-- A server is given no port just when all of the range are taken. -/
theorem allocatePort_eq_error_iff {cause : GatewayError} :
    g.allocatePort server = .error cause ↔ cause = .rangeExhausted g.config.ports ∧
      ∀ port, g.config.ports.first ≤ port → port ≤ g.config.ports.last →
        g.panel.Taken server port := by
  have hfind := g.config.ports.find?_ports_eq_none
    fun port => !decide (g.panel.Taken server port)
  simp only [Bool.not_eq_false', decide_eq_true_eq] at hfind
  rw [allocatePort_eq, ← hfind]
  cases g.config.ports.ports.find? fun port => !decide (g.panel.Taken server port) with
  | none => rw [Except.error.injEq, and_iff_left rfl, eq_comm]
  | some found => exact iff_of_false nofun (nofun ∘ And.right)

/-- Whether ports are taken for a server is not changed by saving it, so it is given the same port
again. -/
theorem allocatePort_of_saveServer {s : Server} {store : Store}
    (hsave : g.store.saveServer s = (.ok (), store)) :
    allocatePort { g with store } s.id = g.allocatePort s.id := by
  have hpanel : g.panel.saveServer s = .ok store.panel := Store.of_change_eq_ok hsave
  have htaken : (fun port => !decide (store.panel.Taken s.id port)) = fun port =>
      !decide (g.panel.Taken s.id port) := by
    funext port
    rw [decide_eq_decide.mpr (Panel.taken_of_saveServer hpanel)]
  rw [allocatePort_eq, allocatePort_eq, ← htaken]
  rfl

/-! ### Runs -/

/-- Sets a port **aside** for a server, which is saved with it; if there is none, nothing is
saved. -/
def setAside (g : Gateway) (s : Server) : Gateway :=
  match g.allocatePort s.id with
  | .error _ => g
  | .ok port => { g with store := (g.store.saveServer { s with proxyPort := some port }).2 }

/-- Sets ports aside for servers, one after the other. -/
def setAsideAll (g : Gateway) (servers : List Server) : Gateway :=
  servers.foldl setAside g

/-- What a port set aside leaves of a property of documents that a server saved with a free port
leaves. -/
theorem invariant_setAside {P : Panel → Prop} (h : P g.panel) (s : Server)
    (hok : ∀ port panel, ¬g.panel.Taken s.id port →
      g.panel.saveServer { s with proxyPort := some port } = .ok panel → P panel) :
    P (g.setAside s).panel := by
  unfold setAside
  split
  · exact h
  · next port hport =>
    exact Store.invariant_change h fun panel =>
      hok port panel (allocatePort_eq_ok_iff.mp hport).2.1

theorem portsApart_setAside (h : g.panel.PortsApart) (s : Server) :
    (g.setAside s).panel.PortsApart := by
  refine invariant_setAside h s fun port panel hfree => h.saveServer ?_
  rintro _ ⟨⟩
  exact hfree

theorem distinct_setAside (h : Distinct (·.id) g.panel.servers) (s : Server) :
    Distinct (·.id) (g.setAside s).panel.servers := by
  refine invariant_setAside (P := fun p => Distinct (·.id) p.servers) h s fun port panel _ hok => ?_
  rw [(Panel.saveServer_eq_ok_iff.mp hok).2]
  exact h.upsert

theorem portsApart_setAsideAll (h : g.panel.PortsApart) (servers : List Server) :
    (g.setAsideAll servers).panel.PortsApart := by
  induction servers generalizing g with
  | nil => exact h
  | cons s servers ih => exact ih (portsApart_setAside h s)

theorem distinct_setAsideAll (h : Distinct (·.id) g.panel.servers) (servers : List Server) :
    Distinct (·.id) (g.setAsideAll servers).panel.servers := by
  induction servers generalizing g with
  | nil => exact h
  | cons s servers ih => exact ih (distinct_setAside h s)

/-- **Servers are given the lowest free ports**, whatever the store and the range. A server is given
the lowest port of the range that no other one has, and none just when others have all of them; one
that is saved with its port is given it again. Setting ports aside, for any servers one after the
other, keeps those of different servers apart, and keeps all ports of the document distinct if its
servers have distinct identifiers. -/
theorem allocates_lowest (g : Gateway) :
    (∀ server port, g.allocatePort server = .ok port ↔
      (g.config.ports.first ≤ port ∧ port ≤ g.config.ports.last) ∧ ¬g.panel.Taken server port ∧
        ∀ lower, g.config.ports.first ≤ lower → lower < port → g.panel.Taken server lower) ∧
    (∀ server cause, g.allocatePort server = .error cause ↔
      cause = .rangeExhausted g.config.ports ∧
        ∀ port, g.config.ports.first ≤ port → port ≤ g.config.ports.last →
          g.panel.Taken server port) ∧
    (∀ (s : Server) port store, g.allocatePort s.id = .ok port →
      g.store.saveServer { s with proxyPort := some port } = (.ok (), store) →
        allocatePort { g with store := store } s.id = .ok port) ∧
    (g.panel.PortsApart → ∀ servers, (g.setAsideAll servers).panel.PortsApart) ∧
    (Distinct (·.id) g.panel.servers → g.panel.proxyPorts.Nodup →
      ∀ servers, (g.setAsideAll servers).panel.proxyPorts.Nodup) := by
  refine ⟨fun _ _ => allocatePort_eq_ok_iff, fun _ _ => allocatePort_eq_error_iff,
    fun s port store hport hsave => ?_, portsApart_setAsideAll, fun hids hnodup servers => ?_⟩
  · exact (allocatePort_of_saveServer hsave).trans hport
  · have hapart := portsApart_setAsideAll (Panel.portsApart_of_nodup hnodup) servers
    exact hapart.nodup (distinct_setAsideAll hids servers)

/-- The highest of all ports is the last one of a range. One server gets it, and again once it is
saved with it; the next one gets none. -/
theorem allocates_lowest_up_to_the_last :
    let lobby : Server := { id := ⟨.ofNat 1⟩, name := "lobby", proxyPort := some 65534 }
    let arena : Server := { id := ⟨.ofNat 2⟩, name := "arena" }
    let maze : Server := { id := ⟨.ofNat 3⟩, name := "maze" }
    let g : Gateway := {
      config := { ports := { first := 65534, last := 65535 } }
      store := .ofPanel { Panel.empty with servers := [lobby, arena] } }
    let store := (g.store.saveServer { arena with proxyPort := some 65535 }).2
    g.allocatePort arena.id = .ok 65535 ∧
      allocatePort { g with store := store } arena.id = .ok 65535 ∧
      allocatePort { g with store := store } maze.id =
        .error (.rangeExhausted { first := 65534, last := 65535 }) ∧
      Distinct (·.id) g.panel.servers ∧ g.panel.proxyPorts.Nodup ∧
      (g.setAsideAll [arena, maze, lobby]).panel.proxyPorts = [65534, 65535] ∧
      (g.setAsideAll [arena, maze, lobby]).panel.proxyPorts.Nodup := by
  intro lobby arena maze g store
  have hport : g.allocatePort arena.id = .ok 65535 := by cbv
  have hsave : g.store.saveServer { arena with proxyPort := some 65535 } = (.ok (), store) := rfl
  have hids : Distinct (·.id) g.panel.servers := by decide
  have hnodup : g.panel.proxyPorts.Nodup := by decide
  have h := allocates_lowest g
  exact ⟨hport, h.2.2.1 arena 65535 store hport hsave, by cbv, hids, hnodup,
    by decide +kernel,
    h.2.2.2.2 hids hnodup [arena, maze, lobby]⟩

/-- Two records with one identifier are one server. The port that one of them has is given to it
again, and saved with the other: then both have it. -/
theorem not_nodup_of_twins :
    let lobby : Server := { id := ⟨.ofNat 1⟩, name := "lobby" }
    let g : Gateway := {
      config := { ports := { first := 30000, last := 30001 } }
      store := .ofPanel { Panel.empty with
        servers := [lobby, { lobby with proxyPort := some 30000 }] } }
    g.panel.proxyPorts.Nodup ∧ g.allocatePort lobby.id = .ok 30000 ∧
      (g.setAsideAll [lobby]).panel.proxyPorts = [30000, 30000] ∧
      ¬(g.setAsideAll [lobby]).panel.proxyPorts.Nodup := by
  intro lobby g
  have hboth : (g.setAsideAll [lobby]).panel.proxyPorts = [30000, 30000] := by
    decide +kernel
  refine ⟨by decide, by cbv, hboth, ?_⟩
  rw [hboth]
  decide

end Gateway

end GameGateway
