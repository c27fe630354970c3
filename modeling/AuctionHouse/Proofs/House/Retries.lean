import AuctionHouse.Proofs.House.IdleProxy
import AuctionHouse.Proofs.House.Raising

/-!
# Ceilings that are set again

In a balanced round, a user who leads or has a ceiling above the price is so alone
(`Balanced.alone_of_ahead`), and so meets no rival with another ceiling (`Balanced.not_answered`).
A ceiling that was taken is, when it comes a second time, either above the price, so that its user
is ahead and nothing changes but the time of the proxy, or not above it any more and refused
(`perform_setProxy_again`).
-/

namespace AuctionHouse

theorem Event.Modest.belowRoof {event : Event} (modest : event.Modest) : event.BelowRoof := by
  cases event with
  | call caller call => cases call <;> exact modest
  | register => exact ⟨modest.2.2, modest.1⟩
  | relist | setWorkflow => trivial

namespace House

variable {house : House} {store after : Store} {item : Item} {round : Round} {caller : Caller}
  {ceiling : Decimal} {saved : Proxy}

/-- Whether a user leads, or has an active ceiling above the price. -/
def Ahead (store : Store) (item : Item) (round : Round) (user : UserId) : Prop :=
  (store.standing item round).leader? = some user ∨
    ∃ own ∈ store.activeProxies item.id round, own.user = user ∧
      (store.standing item round).minPrice < own.ceiling

/-- In a balanced round, a user who is ahead is so alone. -/
theorem Balanced.alone_of_ahead (kept : house.Kept store) (balanced : Balanced store item round)
    {user : UserId} (ahead : Ahead store item round user) :
    (∀ leader, (store.standing item round).leader? = some leader → leader = user) ∧
      Unopposed user (store.standing item round).minPrice
        (store.activeProxies item.id round) := by
  rcases ahead with leads | ⟨own, own_mem, rfl, able⟩
  · refine ⟨fun leader led => Option.some.inj (led.symm.trans leads), ?_⟩
    intro proxy mem _ other
    obtain ⟨lead, leading, rfl⟩ := Option.map_eq_some_iff.1 leads
    exact (balanced.leads lead leading proxy mem).resolve_left other
  · constructor
    · intro leader led
      obtain ⟨lead, leading, rfl⟩ := Option.map_eq_some_iff.1 led
      rcases balanced.leads lead leading own own_mem with own_leads | beaten
      · exact own_leads.symm
      · exact absurd able (Decimal.not_lt.2 beaten)
    · intro proxy mem _ other
      refine balanced.le_of_ne kept.proxies own_mem mem able ?_
      rintro rfl
      exact other rfl

/-- In a balanced round, a ceiling of a user who is ahead is not answered. -/
theorem Balanced.not_answered (kept : house.Kept store) (balanced : Balanced store item round)
    (ahead : Ahead store item round caller.user) :
    house.ceilingAnswer store caller item.id round ceiling item = .ok [] := by
  obtain ⟨leads, unopposed⟩ := balanced.alone_of_ahead kept ahead
  unfold ceilingAnswer
  rcases ceilingBids_cases house.config.proxyOrdering item round caller ceiling.roundCents
    (store.standing item round)
    ((ceilingPut store caller item.id round ceiling).2.activeProxies item.id round) with
    ⟨rival, strongest, able, -⟩ | ⟨-, -, eq⟩ | ⟨-, ⟨leader, led, other⟩, -⟩
  · have rival_mem := (mem_ceilingPut_iff_of_ne kept.proxies strongest.other).1 strongest.mem
    have beaten := unopposed rival rival_mem strongest.active strongest.other
    exact absurd able (Decimal.not_lt.2 beaten)
  · exact eq
  · exact absurd (leads leader led) other

/-- A ceiling that is put in the place of the same one only changes the time of its proxy. -/
theorem ceilingPut_again (kept : store.ProxiesKept) {id : ItemId}
    (found : store.activeProxy? id round caller.user = some saved)
    (same : saved.ceiling = ceiling.roundCents) :
    ceilingPut store caller id round ceiling =
      ({ saved with updatedAt := caller.now }, { store with
        proxies := store.proxies.modify saved.id fun proxy =>
          { proxy with updatedAt := caller.now } }) := by
  let touch (proxy : Proxy) : Proxy := { proxy with updatedAt := caller.now }
  have value := (Store.mem_activeProxies.1 (Store.activeProxy?_eq_some found).1).1
  have saved_pos := kept.keyed.id_pos value
  have pos : 0 < (touch saved).id := saved_pos
  have raised_eq : raised (some saved) caller id round ceiling.roundCents = touch saved := by
    rw [← same]
    rfl
  have proxies_eq := Table.insert_eq_modify (kept.keyed.get?_eq_some value) touch
  rw [ceilingPut, found, raised_eq, Store.putProxy_old pos]
  exact Prod.ext rfl (congrArg (fun proxies => { store with proxies }) proxies_eq)

/-- In a balanced round, a ceiling that its user has already and that is taken once more changes
nothing but the time of its proxy. -/
theorem perform_setProxy_of_same (kept : house.Kept store) (balanced : Balanced store item round)
    (taken : CeilingTaken house store caller item.id round ceiling item)
    (found : store.activeProxy? item.id round caller.user = some saved)
    (same : saved.ceiling = ceiling.roundCents) :
    house.perform store caller (.setProxy item.id round ceiling) =
      (.ok (.proxy { saved with updatedAt := caller.now }), { store with
        proxies := store.proxies.modify saved.id fun proxy =>
          { proxy with updatedAt := caller.now } }) := by
  obtain ⟨-, -, -, -, above⟩ := Validation.ceilingViolations_eq_nil_iff.1 taken.valid
  obtain ⟨saved_mem, saved_user⟩ := Store.activeProxy?_eq_some found
  have unanswered := @Balanced.not_answered house store item round caller ceiling kept balanced
    (.inr ⟨saved, saved_mem, saved_user, same ▸ above⟩)
  rw [perform_setProxy_of_taken taken, unanswered, ceilingPut_again kept.proxies found same]
  rfl

/-- A ceiling that is taken in a balanced round leaves it balanced, as that of the caller's active
proxy. -/
theorem balanced_of_setProxy (kept : house.Kept store) (balanced : Balanced store item round)
    (ceiling_lt : ceiling.value < roof) (listed : store.item? item.id = some item)
    (performed : house.perform store caller (.setProxy item.id round ceiling) =
      (.ok (.proxy saved), after)) :
    CeilingTaken house store caller item.id round ceiling item ∧ house.Kept after ∧
      Balanced after item round ∧ after.item? item.id = some item ∧
      after.activeProxy? item.id round caller.user = some saved ∧
      saved.ceiling = ceiling.roundCents := by
  have served := served house store caller (.setProxy item.id round ceiling)
  rw [performed] at served
  have kept_after := kept.served served
  obtain ⟨item', bids, taken, answered, rfl, rfl⟩ := taken_of_setProxy performed
  obtain rfl : item' = item := Option.some.inj (taken.listed.symm.trans listed)
  obtain ⟨bids', answered', balanced_after⟩ :=
    balanced.ceiling_taken kept (value_roundCents_le_roof ceiling_lt.le) taken
  obtain rfl : bids' = bids := Except.ok.inj (answered'.symm.trans answered)
  obtain ⟨single, ceiling_eq, -⟩ := @proxyRaised store caller item' round ceiling kept.proxies bids'
  refine ⟨taken, kept_after, balanced_after, ?_, ?_, ceiling_eq⟩
  · rw [Store.item?_append, item?_ceilingPut]
    exact listed
  · exact kept_after.proxies.activeProxy?_eq_some_iff.2 ((single _).2 rfl)

/-- A ceiling that was taken in a balanced round is taken a second time, if its time is not over and
it is above the price, and then changes nothing but the time of its proxy.  If it is not above the
price any more, it is refused for that. -/
theorem perform_setProxy_again (kept : house.Kept store) (balanced : Balanced store item round)
    (ceiling_lt : ceiling.value < roof) (listed : store.item? item.id = some item)
    (performed : house.perform store caller (.setProxy item.id round ceiling) =
      (.ok (.proxy saved), after))
    {again : Instant} (within : ¬ item.window.closes < again) :
    house.perform after ⟨caller.user, again⟩ (.setProxy item.id round ceiling) =
      if (after.standing item round).minPrice < saved.ceiling then
        (.ok (.proxy { saved with updatedAt := again }), { after with
          proxies := after.proxies.modify saved.id fun proxy =>
            { proxy with updatedAt := again } })
      else
        (.error (.refused (.rejected [⟨.ceilingTooLow, .ceiling,
          "Your maximum has to be higher than the current highest bid of " ++
            (after.standing item round).minPrice.text ++ "."⟩])), after) := by
  obtain ⟨taken, kept_after, balanced_after, listed_after, found, ceiling_eq⟩ :=
    balanced_of_setProxy kept balanced ceiling_lt listed performed
  have violations_eq := Validation.ceilingViolations_later taken.valid
    (item.window.statusAt again) (after.standing item round)
  rw [Validation.when_eq_nil_iff.2 (mt Window.phase_eq_ended_iff.1 within), List.nil_append]
    at violations_eq
  by_cases above : (after.standing item round).minPrice < saved.ceiling
  · have valid := violations_eq
    rw [Validation.when_eq_nil_iff.2 (by rwa [← ceiling_eq, Decimal.not_le])] at valid
    rw [if_pos above]
    exact @perform_setProxy_of_same house after item round ⟨caller.user, again⟩ ceiling saved
      kept_after balanced_after ⟨taken.authorized, listed_after, taken.current, valid⟩ found
      ceiling_eq
  · have too_low : ceiling.roundCents ≤ (after.standing item round).minPrice := by
      rwa [← ceiling_eq, ← Decimal.not_lt]
    have refused : house.ceilingItem after ⟨caller.user, again⟩ item.id round ceiling = _ :=
      accept_of_listed taken.authorized
        ((Store.inRound_eq_ok_iff ..).2 ⟨listed_after, taken.current⟩) _
    rw [violations_eq, Validation.when, if_pos too_low, if_neg (List.cons_ne_nil _ _)] at refused
    rw [if_neg above, perform_setProxy, refused]

/-- After every modest run, in a round without a purchase and for an item with a step in whole
cents, nothing is written for a ceiling that the leader sets.  Whoever sets a ceiling below the roof
can set the same one again at every time that is not after the window: if it is still above the
price, only the time of its proxy is different then, and else it is refused as too low. -/
theorem ceiling_set_again (house : House) (events : List Event)
    (modest : ∀ event ∈ events, event.Modest) {id : ItemId}
    (listed : (house.run events).item? id = some item) (wholeStep : item.bidStep.IsCents)
    (unsold : Unsold (house.run events) id round)
    (performed : house.perform (house.run events) caller (.setProxy id round ceiling) =
      (.ok (.proxy saved), after)) :
    (((house.run events).standing item round).leader? = some caller.user →
      after.ledger = (house.run events).ledger) ∧
    (ceiling.value < roof → ∀ again : Instant, ¬ item.window.closes < again →
      house.perform after ⟨caller.user, again⟩ (.setProxy id round ceiling) =
        if (after.standing item round).minPrice < saved.ceiling then
          (.ok (.proxy { saved with updatedAt := again }), { after with
            proxies := after.proxies.modify saved.id fun proxy =>
              { proxy with updatedAt := again } })
        else
          (.error (.refused (.rejected [⟨.ceilingTooLow, .ceiling,
            "Your maximum has to be higher than the current highest bid of " ++
              (after.standing item round).minPrice.text ++ "."⟩])), after)) := by
  have kept := kept_run house events
  have balanced := balanced_of_whole house events (fun event mem => (modest event mem).belowRoof)
    listed wholeStep round unsold
  obtain rfl := (kept.items id item listed).1
  refine ⟨?_, fun ceiling_lt again within =>
    perform_setProxy_again kept balanced ceiling_lt listed performed within⟩
  intro leads
  obtain ⟨item', bids, taken, answered, -, rfl⟩ := taken_of_setProxy performed
  obtain rfl : item' = item := Option.some.inj (taken.listed.symm.trans listed)
  have unanswered := @Balanced.not_answered house _ item' round caller ceiling kept balanced
    (.inl leads)
  obtain rfl : [] = bids := Except.ok.inj (unanswered.symm.trans answered)
  exact ledger_ceilingPut (house.run events) caller item'.id round ceiling

theorem ceiling_set_again_vase :
    let events : List Event :=
      [.register .vase, .call ⟨2, .hour 1⟩ (.placeBid 1 0 (.whole 12) .standard)]
    let saved : Proxy :=
      { id := 1, item := 1, user := 2, ceiling := .whole 25, round := 0, active := true,
        createdAt := .hour 2, updatedAt := .hour 2 }
    let first := perform {} (run {} events) ⟨2, .hour 2⟩ (.setProxy 1 0 (.whole 25))
    let again := perform {} first.2 ⟨2, .hour 3⟩ (.setProxy 1 0 (.whole 25))
    first.1 = .ok (.proxy saved) ∧ first.2.ledger = (run {} events).ledger ∧
      again.1 = .ok (.proxy { saved with updatedAt := .hour 3 }) ∧
      again.2.ledger = first.2.ledger := by
  intro events saved first again
  have modest : ∀ event ∈ events, event.Modest := by
    have below : Item.vase.startingPrice.value < roof ∧ Item.vase.buyNowPrice.value < roof ∧
        Item.vase.bidStep.value < roof ∧ (Decimal.whole 12).value < roof := by decide +kernel
    obtain ⟨start_lt, buy_now_lt, step_lt, amount_lt⟩ := below
    simp only [events, List.mem_cons, List.not_mem_nil, or_false]
    rintro event (rfl | rfl)
    · exact ⟨start_lt, buy_now_lt, step_lt⟩
    · exact amount_lt
  have vase_eq : (run {} events).item? 1 = some .vase := by decide +kernel
  have wholeStep : Item.vase.bidStep.IsCents := Decimal.isCents_of_scale_le (by decide)
  have unsold : ∀ bid ∈ (run {} events).bidsFor 1 0, bid.offer ≠ .purchased := by decide +kernel
  have answer_eq : first.1 = .ok (.proxy saved) := by decide +kernel
  have first_eq : first = (.ok (.proxy saved), first.2) := Prod.ext answer_eq rfl
  obtain ⟨unwritten, repeated⟩ :=
    ceiling_set_again {} events modest vase_eq wholeStep unsold first_eq
  have leads : ((run {} events).standing .vase 0).leader? = some 2 := by decide +kernel
  have again_eq := repeated (by decide +kernel) (.hour 3) (by decide)
  have above : (first.2.standing .vase 0).minPrice < saved.ceiling := by decide +kernel
  rw [if_pos above] at again_eq
  exact ⟨answer_eq, unwritten leads, congrArg Prod.fst again_eq,
    congrArg (fun result => result.2.ledger) again_eq⟩

end House

end AuctionHouse
