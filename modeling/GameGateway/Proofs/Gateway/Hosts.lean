import GameGateway.Proofs.Gateway.Commutation
import GameGateway.Proofs.Ident.Text
import GameGateway.Proofs.Route.Spelling

/-!
# Generated hosts are kept apart

Where there is no base domain, the host of a server without one of its own is a label with its
identifier, a dot and a suffix. Whatever the suffix is, the routing key of the host begins with the
label in lower case (`label_isPrefix`): the blanks that are trimmed, the port that is dropped and
the dots at the end all stand behind it. So servers have different keys (`generated_hosts_apart`).
-/

namespace GameGateway

/-- A server has **no host of its own** when there is none in its record, or a blank one. -/
def Server.NoHost (s : Server) : Prop :=
  ∀ host ∈ s.hostname, trimBlank host = ""

/-! ### Generated hosts -/

namespace HostnamePolicy

variable {policy : HostnamePolicy} {s t : Server}

/-- There is **no base domain** within which the slugs of servers are hosts. -/
def NoBase (policy : HostnamePolicy) : Prop :=
  ∀ domain ∈ policy.baseDomain, domain = ""

/-- The part of a generated host in front of the suffix. -/
def label (id : ServerId) : String :=
  "server-" ++ id.toString

theorem toList_label (id : ServerId) :
    (label id).toList = "server-srv_".toList ++ id.ulid.digits := by
  have hfront : "server-srv_" = "server-" ++ (Resource.tag .server ++ "_") := rfl
  have hdigits : id.ulid.toString.toList = id.ulid.digits := String.toList_ofList
  rw [label, Id.toString, ← String.append_assoc, ← hfront, String.toList_append, hdigits]

theorem label_inj {id id' : ServerId}
    (h : (label id).toList.map Char.toLower = (label id').toList.map Char.toLower) : id = id' := by
  rw [toList_label, toList_label, List.map_append, List.map_append, List.append_cancel_left_eq] at h
  have hdigits : id.ulid.digits = id'.ulid.digits :=
    Ulid.eq_of_map_toLower_eq (fun _ => Ulid.mem_alphabet_of_mem_digitsOf)
      (fun _ => Ulid.mem_alphabet_of_mem_digitsOf) h
  refine Id.toString_inj ?_
  rw [Id.toString, Id.toString, Ulid.toString, Ulid.toString, hdigits]

theorem length_label (id : ServerId) : (label id).toList.length = 37 := by
  rw [toList_label, List.length_append, Ulid.digits, Ulid.length_digitsOf]
  rfl

/-- A label has neither blanks nor marks in it. -/
theorem of_mem_label {id : ServerId} {c : Char} (hc : c ∈ (label id).toList) :
    Text.isBlank c = false ∧ c ≠ ':' ∧ c ≠ '[' ∧ c ≠ '.' := by
  have hall : ("server-srv_".toList ++ Ulid.alphabet).all fun c =>
      Text.isBlank c = false ∧ c ≠ ':' ∧ c ≠ '[' ∧ c ≠ '.' := by decide
  refine of_decide_eq_true (List.all_eq_true.mp hall c ?_)
  rw [toList_label, List.mem_append] at hc
  exact List.mem_append.mpr (hc.imp_right Ulid.mem_alphabet_of_mem_digitsOf)

theorem isName_label (id : ServerId) : Route.Key.IsName (label id).toList where
  trimmed := Text.trim_eq_self (fun _ hc => (of_mem_label (List.mem_of_mem_head? hc)).1)
    fun _ hc => (of_mem_label (List.mem_of_getLast? hc)).1
  colon hc := (of_mem_label hc).2.1 rfl
  bracket hc := (of_mem_label (List.mem_of_mem_head? hc)).2.2.1 rfl

theorem generate_of_noBase (hbase : policy.NoBase) :
    policy.generate s = label s.id ++ ("." ++ policy.suffix) := by
  have hnone : policy.baseDomain.filter (fun domain => !domain.isEmpty) = none := by
    rw [Option.filter_eq_none_iff]
    intro domain hdomain
    simp [hbase domain hdomain]
  rw [generate, hnone, label, String.append_assoc]
  rfl

/-- **The routing key of a generated host** begins with its label. -/
theorem label_isPrefix (hbase : policy.NoBase) :
    (label s.id).toList.map Char.toLower <+:
      (Route.Key.normalize (policy.generate s)).toList := by
  have hne : (label s.id).toList ≠ [] := List.ne_nil_of_length_pos (by rw [length_label]; decide)
  have hdot : (label s.id).toList.getLast? ≠ some '.' :=
    fun hlast => (of_mem_label (List.mem_of_getLast? hlast)).2.2.2 rfl
  rw [generate_of_noBase hbase, Route.Key.normalize, String.toList_ofList, String.toList_append]
  exact (isName_label s.id).isPrefix_chars hne hdot

/-- Labels are of one length, so keys that are the same begin with the same one. -/
theorem id_eq_of_normalize_generate_eq (hbase : policy.NoBase)
    (h : Route.Key.normalize (policy.generate s) = Route.Key.normalize (policy.generate t)) :
    s.id = t.id := by
  have hs := label_isPrefix (s := s) hbase
  have ht := label_isPrefix (s := t) hbase
  rw [← h] at ht
  have hlength : ((label s.id).toList.map Char.toLower).length =
      ((label t.id).toList.map Char.toLower).length := by
    rw [List.length_map, List.length_map, length_label, length_label]
  exact label_inj ((List.prefix_of_prefix_length_le hs ht hlength.le).eq_of_length hlength)

theorem hostname_of_noHost (h : s.NoHost) : policy.hostname s = policy.generate s := by
  have hnone : (s.hostname.map trimBlank).filter (fun host => !host.isEmpty) = none := by
    rw [Option.filter_eq_none_iff]
    intro host hhost
    obtain ⟨spelled, hspelled, rfl⟩ := Option.map_eq_some_iff.mp hhost
    simp [h spelled hspelled]
  rw [hostname, hnone]

end HostnamePolicy

/-! ### Their routes -/

namespace Gateway

variable {config : Config} {machine : Machine} {g : Gateway} {s t : Server} {l : ListenerId}
  {rs rt : Route} {port : UInt16}

/-- Two servers that are updated one after the other, and have routes under different keys on one
listener, both have them in the end. -/
theorem route?_updateServer_both (hl : g.ports.Lawful g.config)
    (hs : routeFor? g.config machine s = some (l, rs))
    (ht : routeFor? g.config machine t = some (l, rt)) (hport : g.ports.portOf? l = some port)
    (hne : rs.key ≠ rt.key) :
    let g' := ((g.updateServer machine s).2.updateServer machine t).2
    (∃ owner, g'.ports.route? port rs.key = some { rs with owner }) ∧
      ∃ owner, g'.ports.route? port rt.key = some { rt with owner } := by
  have hconfig : (g.updateServer machine s).2.config = g.config := config_updateServer
  have hl' : (g.updateServer machine s).2.ports.Lawful (g.updateServer machine s).2.config :=
    lawful_updateServer hl
  have ht' : routeFor? (g.updateServer machine s).2.config machine t = some (l, rt) := hconfig ▸ ht
  have hport' : (g.updateServer machine s).2.ports.portOf? l = some port :=
    (sameShape_updateServer (g := g) (s := s)).portOf?_eq.symm.trans hport
  refine ⟨?_, ?_⟩
  · rw [route?_updateServer_of_isRoutable hl' ht' hport', if_neg fun hcond => hne hcond.2.symm,
      route?_updateServer_of_isRoutable hl hs hport, if_pos ⟨rfl, rfl⟩]
    exact ⟨_, rfl⟩
  · rw [route?_updateServer_of_isRoutable hl' ht' hport', if_pos ⟨rfl, rfl⟩]
    exact ⟨_, rfl⟩

/-- **Generated hosts are kept apart.** Without a base domain, two servers that have no host of
their own have different keys, whatever the suffix and their names are. So a table by virtual host
has a route for either after both are added; and so has the port of their listener in any gateway,
after both are updated there. -/
theorem generated_hosts_apart (config : Config) (hbase : config.hostnames.NoBase) (s t : Server)
    (hs : s.NoHost) (ht : t.NoHost) (hid : s.id ≠ t.id) :
    let host (u : Server) := config.hostnames.hostname u
    let key (u : Server) := Route.Key.normalize (host u)
    key s ≠ key t ∧
    (∀ (routes : Route.Table) (a b x y : String) (p q : UInt16), routes.virtualHosts = true →
      let both := (routes.add a (host s) x p).add b (host t) y q
      both.get? (key s) = some ⟨a, key s, x, p, true⟩ ∧
        both.get? (key t) = some ⟨b, key t, y, q, true⟩) ∧
    ∀ (store : Store) (turns : List Turn) (machine : Machine) (l : ListenerId) (rs rt : Route)
      (port : UInt16),
      routeFor? config machine s = some (l, rs) → routeFor? config machine t = some (l, rt) →
      ((new config store).after turns).ports.portOf? l = some port →
      let g := ((new config store).after turns).after
        [.call machine (.updateServer s), .call machine (.updateServer t)]
      (∃ owner, g.ports.route? port (key s) = some { rs with owner }) ∧
        ∃ owner, g.ports.route? port (key t) = some { rt with owner } := by
  intro host key
  have hkey : key s ≠ key t := by
    intro heq
    refine hid (HostnamePolicy.id_eq_of_normalize_generate_eq hbase ?_)
    rwa [← HostnamePolicy.hostname_of_noHost hs, ← HostnamePolicy.hostname_of_noHost ht]
  refine ⟨hkey, fun routes a b x y p q hvirtual => ?_,
    fun store turns machine l rs rt port hrs hrt hport => ?_⟩
  · have hkeyOf : routes.keyOf (host s) = key s := if_pos hvirtual
    have hkeyOf' : (routes.add a (host s) x p).keyOf (host t) = key t := if_pos hvirtual
    intro both
    rw [Route.Table.get?_add, Route.Table.get?_add, Route.Table.get?_add, hkeyOf', hkeyOf,
      if_neg hkey.symm, if_pos rfl, if_pos rfl]
    exact ⟨rfl, rfl⟩
  · have hl := Reachable.lawful ⟨config, store, turns, rfl⟩
    have hroute : ∀ u, routeFor? ((new config store).after turns).config machine u =
        routeFor? config machine u := fun u => by rw [config_after]; rfl
    have hrs' : rs.key = key s := key_of_routeFor? hrs
    have hrt' : rt.key = key t := key_of_routeFor? hrt
    rw [← hrs', ← hrt'] at hkey ⊢
    exact route?_updateServer_both hl ((hroute s).trans hrs) ((hroute t).trans hrt) hport hkey

/-- A suffix that ends the host in a port and in blanks, and two servers of one name, one without a
host and one with a blank host. -/
theorem generated_hosts_apart_in_odd_suffix :
    let config : Config := { hostnames := { suffix := " Games:80. " } }
    let machine : Machine := {
      address := fun _ _ => .ok (.v4 #v[172, 18, 0, 2]), bindFault := fun _ => none }
    let main : Listener := { id := ⟨.ofNat 1⟩, port := 25565, name := "main" }
    let lobby : Server := {
      id := ⟨.ofNat 2⟩, name := "lobby", container := some "lobby", status := .running
      listener := some main.id }
    let twin : Server := { lobby with id := ⟨.ofNat 3⟩, hostname := some " \t" }
    let store := Store.ofPanel { version := 1, listeners := [main] }
    let g := ((new config store).after [.call machine .start]).after
      [.call machine (.updateServer lobby), .call machine (.updateServer twin)]
    let key (id : String) := "server-srv_0000000000000000000000000" ++ id ++ ". games"
    config.hostnames.NoBase ∧ lobby.NoHost ∧ twin.NoHost ∧ lobby.id ≠ twin.id ∧
      Route.Key.normalize (config.hostnames.hostname lobby) = key "2" ∧
      Route.Key.normalize (config.hostnames.hostname twin) = key "3" ∧
      (∃ owner, g.ports.route? 25565 (key "2") =
        some ⟨owner, key "2", "172.18.0.2", 25565, true⟩) ∧
      ∃ owner, g.ports.route? 25565 (key "3") =
        some ⟨owner, key "3", "172.18.0.2", 25565, true⟩ := by
  intro config machine main lobby twin store g key
  have hbase : config.hostnames.NoBase := nofun
  have hlobby : lobby.NoHost := nofun
  have htwin : twin.NoHost := by
    rintro _ ⟨⟩
    decide +kernel
  have hid : lobby.id ≠ twin.id := by decide
  have hkey : Route.Key.normalize (config.hostnames.hostname lobby) = key "2" := by decide +kernel
  have hkey' : Route.Key.normalize (config.hostnames.hostname twin) = key "3" := by decide +kernel
  obtain ⟨-, -, hboth⟩ := generated_hosts_apart config hbase lobby twin hlobby htwin hid
  have hroutes := hboth store [.call machine .start] machine main.id
    ⟨lobby.id.toString, key "2", "172.18.0.2", 25565, true⟩
    ⟨twin.id.toString, key "3", "172.18.0.2", 25565, true⟩ 25565 (by decide +kernel)
    (by decide +kernel) (by decide +kernel)
  simp only [hkey, hkey'] at hroutes
  exact ⟨hbase, hlobby, htwin, hid, hkey, hkey', hroutes⟩

end Gateway

end GameGateway
