import GameGateway.Proofs.Gateway.Building

/-!
# Growing ports

Building routes never takes anything away: an entry **continues** as what it was opened for, and a
port that has routes keeps some. So ports **grow** in every step of a refresh but the first, which
clears them, and the last, which gives up those that have stayed idle; and what has grown could be
bound by the machine.
-/

namespace GameGateway

/-- An entry **continues** as another one that differs in its routes only, and has some if the entry
had. -/
structure Entry.Continues (e e' : Entry) : Prop where
  origin : e'.origin = e.origin
  protocol : e'.protocol = e.protocol
  address : e'.address = e.address
  routes : e.routes.isEmpty = false → e'.routes.isEmpty = false

namespace Entry.Continues

variable {e e' e'' : Entry}

theorem refl : e.Continues e :=
  ⟨rfl, rfl, rfl, id⟩

theorem trans (h₁ : e.Continues e') (h₂ : e'.Continues e'') : e.Continues e'' where
  origin := h₂.origin.trans h₁.origin
  protocol := h₂.protocol.trans h₁.protocol
  address := h₂.address.trans h₁.address
  routes := h₂.routes ∘ h₁.routes

/-- An entry continues at its socket. -/
theorem socket_eq (h : e.Continues e') : e'.socket = e.socket := by
  rw [Forwarder.socket, Forwarder.socket, h.protocol, h.address]

/-- An entry that is not idle continues as one that is not. -/
theorem not_idle (h : e.Continues e') (hidle : Ports.isIdle e = false) :
    Ports.isIdle e' = false := by
  simp only [Ports.isIdle, Bool.and_eq_false_iff] at hidle ⊢
  rw [h.origin]
  exact hidle.imp_right h.routes

end Entry.Continues

namespace Ports

variable {machine : Machine} {p p' p'' : Ports} {port : UInt16}

/-- Ports **grow** when all entries continue and those that are new could be bound. -/
structure Grows (machine : Machine) (p p' : Ports) : Prop where
  kept : ∀ k e, p.get? k = some e → ∃ e', p'.get? k = some e' ∧ e.Continues e'
  bindable : ∀ k e', p'.get? k = some e' → p.get? k = none → machine.bindFault e'.socket = none

theorem Grows.refl : p.Grows machine p where
  kept _ e he := ⟨e, he, .refl⟩
  bindable k e he hnone := by
    rw [he] at hnone
    cases hnone

/-- What could be bound when it was opened is not asked again, so that growth adds up. -/
theorem Grows.trans (h₁ : p.Grows machine p') (h₂ : p'.Grows machine p'') :
    p.Grows machine p'' where
  kept k e he := by
    obtain ⟨e', he', hc⟩ := h₁.kept k e he
    obtain ⟨e'', he'', hc'⟩ := h₂.kept k e' he'
    exact ⟨e'', he'', hc.trans hc'⟩
  bindable k e'' he'' hnone := by
    cases hk : p'.get? k with
    | none => exact h₂.bindable k e'' he'' hk
    | some e' =>
      obtain ⟨e₀, he₀, hc⟩ := h₂.kept k e' hk
      rw [he''] at he₀
      obtain rfl := Option.some.inj he₀
      rw [hc.socket_eq]
      exact h₁.bindable k e' hk hnone

/-- Ports grow by one that is opened. -/
theorem grows_openPort {origin : Origin} {protocol : Protocol} {address : SocketAddress}
    (hk : p.get? address.port = none)
    (hok : p.openPort machine origin protocol address = .ok p') : p.Grows machine p' := by
  obtain ⟨hbind, -, hget⟩ := openPort_eq_ok hok
  constructor
  · intro k e he
    refine ⟨e, ?_, .refl⟩
    rw [hget, if_neg, he]
    rintro rfl
    rw [hk] at he
    cases he
  · intro k e' he' hnone
    rw [hget] at he'
    split at he'
    · obtain rfl := Option.some.inj he'
      exact (bindFault_eq_none_iff.mp hbind).1
    · rw [hnone] at he'
      cases he'

/-- They grow as well when no table with routes is emptied. -/
theorem grows_reroute {f : UInt16 → Entry → Route.Table} (hr : Rerouted f p p')
    (hf : ∀ k e, p.get? k = some e → e.routes.isEmpty = false → (f k e).isEmpty = false) :
    p.Grows machine p' := by
  constructor
  · intro k e he
    refine ⟨{ e with routes := f k e }, ?_, rfl, rfl, rfl, hf k e he⟩
    rw [hr.get?, he]
    rfl
  · intro k e' he' hnone
    rw [hr.get?, hnone] at he'
    cases he'

/-- Adding a route leaves none of the ports without routes that had some. -/
theorem grows_modifyRoutes_add {owner spelling host : String} {backendPort : UInt16} :
    p.Grows machine (p.modifyRoutes port fun t => t.add owner spelling host backendPort) := by
  refine grows_reroute rerouted_modifyRoutes fun k e _ hroutes => ?_
  split
  · exact Route.Table.isEmpty_add
  · exact hroutes

/-- **Every step of building makes ports grow.** -/
theorem BuildStep.grows {config : Gateway.Config} (h : BuildStep config machine p p') :
    p.Grows machine p' := by
  cases h with
  | openListener hfree hok => exact grows_openPort hfree hok
  | addServer => exact grows_modifyRoutes_add
  | addModule => exact grows_modifyRoutes_add
  | openModule hfree hok => exact (grows_openPort hfree hok).trans grows_modifyRoutes_add

/-- **Building from records never closes a port**, nor binds one that the machine refuses. -/
theorem Builds.grows {config : Gateway.Config} (h : Builds config machine p p') :
    p.Grows machine p' := by
  induction h with
  | refl => exact .refl
  | step hstep _ ih => exact hstep.grows.trans ih

end Ports

end GameGateway
