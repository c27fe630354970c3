import AuctionHouse.Proofs.House.Aftermath

/-!
# Traces of calls that are refused

A call that is refused leaves the store as it was, in any state that a run with failures comes to.
Only a ceiling can leave something behind (`CeilingLeft`): if the ceilings of the rivals cannot be
read once it is put, if the price cannot be read once its bids are written, or if it cannot be taken
back.
-/

namespace AuctionHouse.House

open AuctionHouse.Action

variable {house : House} {caller : Caller} {id : ItemId} {round : Round} {ceiling : Decimal}

/-- What a ceiling that is refused can leave behind. -/
inductive CeilingLeft (house : House) (floor : Floor) (caller : Caller) (id : ItemId)
    (round : Round) (ceiling : Decimal) : Refusal → Store → Prop where
  /-- The ceilings of the rivals cannot be read once it is put. -/
  | rivalsUnread {item : Item} (taken : CeilingTaken house floor.store caller id round ceiling item)
      (fails : floor.outages.failsNow .activeProxies = true) :
      CeilingLeft house floor caller id round ceiling (.storage (.unavailable .activeProxies))
        (ceilingPut floor.store caller id round ceiling).2
  /-- The price cannot be read once its bids are written. -/
  | priceUnread {item : Item} {bids : List NewBid}
      (taken : CeilingTaken house floor.store caller id round ceiling item)
      (answered : house.ceilingAnswer floor.store caller id round ceiling item = .ok bids)
      (nonempty : bids ≠ []) (fails : floor.outages.failsNext .bidsFor = true) :
      CeilingLeft house floor caller id round ceiling (.storage (.unavailable .bidsFor))
        ((ceilingPut floor.store caller id round ceiling).2.append bids).2
  /-- Its bids cannot be written, and it cannot be taken back. -/
  | notTakenBack {item : Item} {bids : List NewBid} {refusal : Refusal}
      (taken : CeilingTaken house floor.store caller id round ceiling item)
      (answered : house.ceilingAnswer floor.store caller id round ceiling item = .ok bids)
      (nonempty : bids ≠ []) (fails : PutBackFails (floor.outages.after .putProxy)
        (floor.store.activeProxy? id round caller.user)) :
      CeilingLeft house floor caller id round ceiling refusal
        (ceilingPut floor.store caller id round ceiling).2

/-- A ceiling that is refused leaves nothing behind but in the cases of `CeilingLeft`. -/
theorem setProxy_left {floor after : Floor} {refusal : Refusal}
    (numbered : floor.store.ProxiesNumbered) (lossless : floor.outages.Lossless)
    (refused : house.setProxy caller id round ceiling floor = (.error (.refused refusal), after)) :
    floor.store.SameContents after.store ∨
      CeilingLeft house floor caller id round ceiling refusal after.store := by
  have served := ceilingServed house floor caller id round ceiling
  rw [refused] at served
  cases served with
  | stopped stored =>
    rw [stored]
    exact .inl ⟨rfl, rfl, rfl⟩
  | rivalsUnread taken fails stored =>
    rw [stored]
    exact .inr (.rivalsUnread taken fails)
  | booked taken answered stands booked =>
    cases booked with
    | priceUnread nonempty fails stored =>
      rw [stored, stands.stored]
      exact .inr (.priceUnread taken answered nonempty (stands.price_next.symm.trans fails))
    | takenBack stored =>
      rw [stored, stands.stored]
      exact .inl (sameContents_putBack numbered caller id round ceiling)
    | notTakenBack nonempty fails stored =>
      rw [stored, stands.stored]
      exact .inr (.notTakenBack taken answered nonempty (stands.putBackFails fails))
    | lost lossy _ => exact absurd (stands.lossless lossless) lossy

/-- A call that is a part with its answer wrapped up stops only if the part does. -/
theorem stopped_of_wrap {α : Type} {action : Action α} {wrap : α → Outcome} {floor after : Floor}
    {stop : Stop}
    (stopped : (do return wrap (← action) : Action Outcome) floor = (.error stop, after)) :
    action floor = (.error stop, after) := by
  cases result : action floor with
  | mk answer mid =>
    rw [wrap_apply result] at stopped
    cases answer with
    | ok answer => cases stopped
    | error other =>
      cases stopped
      rfl

/-- A call that leaves no trace when it stops leaves the contents of the store as they were. -/
theorem sameContents_of_traceless {α : Type} {action : Action α} {wrap : α → Outcome}
    {floor after : Floor} {stop : Stop} (traceless : action.Traceless)
    (stopped : (do return wrap (← action) : Action Outcome) floor = (.error stop, after)) :
    floor.store.SameContents after.store := by
  have first := stopped_of_wrap stopped
  have same := traceless floor stop (congrArg Prod.fst first)
  rw [first] at same
  rw [same]
  exact ⟨rfl, rfl, rfl⟩

/-- After every run, wherever the store fails, a call that is refused leaves the items, the bids and
the proxies as they were.  Only a ceiling can leave something behind: if the rivals cannot be read
once it is put, if the price cannot be read once its bids are written, or if it cannot be taken
back. -/
theorem refused_leaves (house : House) {start : Store} (numbered : start.ProxiesNumbered)
    (events : List (Outages × Event)) {outages : Outages} {caller : Caller} {call : Call}
    {refusal : Refusal} {after : Floor} (lossless : outages.Lossless)
    (refused : house.serve caller call { store := house.runThrough start events, outages } =
      (.error (.refused refusal), after)) :
    let before : Floor := { store := house.runThrough start events, outages }
    before.store.SameContents after.store ∨
      ∃ id round ceiling, call = .setProxy id round ceiling ∧
        CeilingLeft house before caller id round ceiling refusal after.store := by
  intro before
  cases call with
  | placeBid id round amount kind =>
    exact .inl (sameContents_of_traceless traceless_placeBid refused)
  | placeBuyNow id => exact .inl (sameContents_of_traceless traceless_placeBuyNow refused)
  | setProxy id round ceiling =>
    have numbered_before : before.store.ProxiesNumbered := numbered_runThrough numbered events
    rcases setProxy_left numbered_before lossless (stopped_of_wrap refused) with same | left
    · exact .inl same
    · exact .inr ⟨id, round, ceiling, rfl, left⟩
  | removeProxy id round => exact .inl (sameContents_of_traceless traceless_removeProxy refused)

theorem refused_leaves_vase :
    let events : List (Outages × Event) :=
      [({}, .register .vase), ({}, .call ⟨2, .hour 1⟩ (.placeBid 1 0 (.whole 12) .standard))]
    let before : Floor :=
      { store := runThrough {} {} events, outages := .ofCountdowns [(.append, 0)] }
    ∃ refusal after, serve {} ⟨3, .hour 2⟩ (.setProxy 1 0 (.whole 20)) before =
      (.error (.refused refusal), after) ∧ before.store.SameContents after.store := by
  intro events before
  let result := serve {} ⟨3, .hour 2⟩ (.setProxy 1 0 (.whole 20)) before
  have answer_eq : result.1 = .error (.refused (.storage (.unavailable .append))) := by
    decide +kernel
  have result_eq : result = (.error (.refused (.storage (.unavailable .append))), result.2) :=
    Prod.ext answer_eq rfl
  refine ⟨_, result.2, result_eq, ?_⟩
  have lossless : (Outages.ofCountdowns [(.append, 0)]).Lossless := fun _ => rfl
  have numbered := (kept_empty {}).proxies.numbered
  rcases refused_leaves {} numbered events lossless result_eq with
    same | ⟨id, round, ceiling, eq, left⟩
  · exact same
  · cases eq
    have fresh : before.store.activeProxy? 1 0 3 = none := by decide +kernel
    generalize result.2.store = left_behind at left
    -- The refusal is not that of a read, and nothing else than the batch fails.
    cases left with
    | notTakenBack taken answered nonempty fails =>
      rw [fresh] at fails
      exact Bool.noConfusion fails

/-- If the rivals cannot be read, a ceiling is refused and stays. -/
theorem rivals_unread_ceiling_stays :
    let store := run {} [.register .vase]
    let result := serve {} ⟨2, .hour 1⟩ (.setProxy 1 0 (.whole 20))
      { store, outages := .ofCountdowns [(.activeProxies, 0)] }
    result.1 = .error (.refused (.storage (.unavailable .activeProxies))) ∧
      store.activeProxies 1 0 = [] ∧
      (result.2.store.activeProxies 1 0).map (fun proxy => (proxy.user, proxy.ceiling)) =
        [(2, .whole 20)] := by
  decide +kernel

/-- If the price cannot be read afterwards, a ceiling is refused and stays, and its bids stay. -/
theorem price_unread_bids_stay :
    let store := run {}
      [.register .vase, .call ⟨2, .hour 1⟩ (.placeBid 1 0 (.whole 12) .standard)]
    let result := serve {} ⟨3, .hour 2⟩ (.setProxy 1 0 (.whole 20))
      { store, outages := .ofCountdowns [(.bidsFor, 1)] }
    result.1 = .error (.refused (.storage (.unavailable .bidsFor))) ∧
      result.2.store.ledger = store.ledger ++
        [{ Settlement.autoBid 1 0 3 (.whole 13) (.hour 2) with id := 2 }] ∧
      (result.2.store.activeProxies 1 0).map (fun proxy => (proxy.user, proxy.ceiling)) =
        [(3, .whole 20)] := by
  decide +kernel

end AuctionHouse.House
