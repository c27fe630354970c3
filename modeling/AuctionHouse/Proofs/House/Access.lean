import AuctionHouse.Proofs.House.Run

/-!
# Calls at which the store can fail

An action that stops has often not changed the store (`Action.Traceless`): one that reads cannot
(`Action.Reads`), a write that fails does not, and after the last write nothing stops the call any
more (`Action.Certain`).  A bid by hand, a purchase and the removal of a ceiling are put together in
this way, so they leave no trace when they stop, wherever the store fails.
-/

namespace AuctionHouse

namespace Outages

variable {outages : Outages} {point other : AccessPoint}

/-- Whether the call of a point after the next one fails. -/
def failsNext (outages : Outages) (point : AccessPoint) : Bool :=
  outages.fails point (outages.calls.count point + 1)

/-- Whether no batch of bids is lost. -/
def Lossless (outages : Outages) : Prop := ∀ calls, outages.fails .lost calls = false

@[simp] theorem failsNow_after_self : (outages.after point).failsNow point =
    outages.failsNext point := by
  simp [failsNow, failsNext, after]

theorem failsNow_after_of_ne (different : other ≠ point) :
    (outages.after other).failsNow point = outages.failsNow point := by
  simp [failsNow, after, different]

theorem failsNext_after_of_ne (different : other ≠ point) :
    (outages.after other).failsNext point = outages.failsNext point := by
  simp [failsNext, after, different]

/-- Whether the next calls of points outside a list fail in the same way at two times. -/
def SameOutside (points : List AccessPoint) (outages later : Outages) : Prop :=
  ∀ point, point ∉ points → later.failsNow point = outages.failsNow point

theorem SameOutside.after {points : List AccessPoint} {later : Outages}
    (same : SameOutside points outages later) (mem : other ∈ points) :
    SameOutside points outages (later.after other) := by
  intro point outside
  rw [failsNow_after_of_ne (by rintro rfl; exact outside mem)]
  exact same point outside

theorem Lossless.failsNow (lossless : outages.Lossless) : outages.failsNow .lost = false :=
  lossless _

end Outages

/-- The floor after a call of a point that leaves the store as it is. -/
def Floor.called (floor : Floor) (point : AccessPoint) : Floor :=
  { floor with outages := floor.outages.after point }

namespace Action

variable {α β : Type} {action : Action α} {next : α → Action β}

/-- A sequence stops in its first part, or goes on with its second. -/
theorem bind_cases (action : Action α) (next : α → Action β) (floor : Floor) :
    (∃ stop after, action floor = (.error stop, after) ∧
      (action >>= next) floor = (.error stop, after)) ∨
    ∃ answer mid, action floor = (.ok answer, mid) ∧ (action >>= next) floor = next answer mid := by
  rw [bind_apply]
  cases result : action floor with
  | mk answer after =>
    cases answer with
    | ok answer => exact .inr ⟨answer, after, rfl, rfl⟩
    | error stop => exact .inl ⟨stop, after, rfl, rfl⟩

theorem reach_apply (point : AccessPoint) (floor : Floor) :
    reach point floor =
      (if floor.outages.failsNow point then .error (.refused (.storage (.unavailable point)))
      else .ok (), floor.called point) := by
  have failing_eq : failing point floor = (.ok (floor.outages.failsNow point),
    floor.called point) := rfl
  unfold reach
  rw [bind_apply, failing_eq]
  cases floor.outages.failsNow point <;> rfl

theorem read_apply (point : AccessPoint) (answer : Store → α) (floor : Floor) :
    read point answer floor =
      (if floor.outages.failsNow point then .error (.refused (.storage (.unavailable point)))
      else .ok (answer floor.store), floor.called point) := by
  unfold read
  rw [bind_apply, reach_apply]
  cases floor.outages.failsNow point <;> rfl

theorem read_eq_ok {point : AccessPoint} {answer : Store → α} {value : α} {floor after : Floor}
    (done : read point answer floor = (.ok value, after)) :
    value = answer floor.store ∧ after = floor.called point := by
  rw [read_apply] at done
  cases fails : floor.outages.failsNow point with
  | true =>
    rw [fails] at done
    cases done
  | false =>
    rw [fails] at done
    cases done
    exact ⟨rfl, rfl⟩

/-- Whether an action leaves the store as it is. -/
def Reads (action : Action α) : Prop := ∀ floor, (action floor).2.store = floor.store

/-- Whether an action that stops leaves the store as it is. -/
def Traceless (action : Action α) : Prop :=
  ∀ floor stop, (action floor).1 = .error stop → (action floor).2.store = floor.store

/-- Whether an action does not stop. -/
def Certain (action : Action α) : Prop := ∀ floor stop, (action floor).1 ≠ .error stop

theorem Reads.traceless (reads : action.Reads) : action.Traceless :=
  fun floor _ _ => reads floor

theorem Reads.bind (reads : action.Reads) (rest : ∀ answer, (next answer).Reads) :
    (action >>= next).Reads := by
  intro floor
  have same := reads floor
  rcases bind_cases action next floor with ⟨stop, after, first, all⟩ | ⟨answer, mid, first, all⟩
  · rw [all, ← same, first]
  · rw [first] at same
    rw [all]
    exact (rest answer mid).trans same

/-- What comes before an action that leaves no trace may read. -/
theorem Reads.bind_traceless (reads : action.Reads) (rest : ∀ answer, (next answer).Traceless) :
    (action >>= next).Traceless := by
  intro floor stop
  have same := reads floor
  rcases bind_cases action next floor with ⟨other, after, first, all⟩ | ⟨answer, mid, first, all⟩
  · rw [all, ← same, first]
    exact fun _ => rfl
  · rw [first] at same
    rw [all]
    exact fun stopped => (rest answer mid stop stopped).trans same

/-- What comes after an action that leaves no trace may not stop. -/
theorem Traceless.bind_certain (traceless : action.Traceless)
    (rest : ∀ answer, (next answer).Certain) : (action >>= next).Traceless := by
  intro floor stop
  rcases bind_cases action next floor with ⟨other, after, first, all⟩ | ⟨answer, mid, first, all⟩
  · have same := traceless floor other (by rw [first])
    rw [first] at same
    rw [all]
    exact fun _ => same
  · rw [all]
    exact fun stopped => absurd stopped (rest answer mid stop)

theorem Certain.bind (certain : action.Certain) (rest : ∀ answer, (next answer).Certain) :
    (action >>= next).Certain := by
  intro floor stop
  rcases bind_cases action next floor with ⟨other, after, first, all⟩ | ⟨answer, mid, first, all⟩
  · exact absurd (by rw [first]) (certain floor other)
  · rw [all]
    exact rest answer mid stop

/-- What comes after an action that reads finds the store as it was. -/
theorem Reads.bind_store {holds : Store → Prop} {floor : Floor} (reads : action.Reads)
    (start : holds floor.store)
    (rest : ∀ answer mid, action floor = (.ok answer, mid) → holds (next answer mid).2.store) :
    holds ((action >>= next) floor).2.store := by
  have same := reads floor
  rcases bind_cases action next floor with ⟨stop, after, first, all⟩ | ⟨answer, mid, first, all⟩
  · rw [first] at same
    rw [all]
    exact same ▸ start
  · rw [all]
    exact rest answer mid first

/-- If what comes after it reads, an action leaves the store for both. -/
theorem store_bind_of_reads {floor : Floor} (rest : ∀ answer, (next answer).Reads) :
    ((action >>= next) floor).2.store = (action floor).2.store := by
  rcases bind_cases action next floor with ⟨stop, after, first, all⟩ | ⟨answer, mid, first, all⟩
  · rw [all, first]
  · rw [all, first]
    exact rest answer mid

theorem reads_pure (answer : α) : (pure answer : Action α).Reads := fun _ => rfl

theorem certain_pure (answer : α) : (pure answer : Action α).Certain :=
  fun _ _ impossible => nomatch impossible

theorem reads_refuse (refusal : Refusal) : (refuse refusal : Action α).Reads := fun _ => rfl

theorem reads_notify (notice : Notice) : (notify notice).Reads := fun _ => rfl

theorem certain_notify (notice : Notice) : (notify notice).Certain :=
  fun _ _ impossible => nomatch impossible

theorem reads_compute (answer : Except Fault α) : (compute answer).Reads := by
  intro floor
  rw [compute_apply]

theorem compute_eq_ok {answer : Except Fault α} {value : α} {floor after : Floor}
    (done : compute answer floor = (.ok value, after)) : answer = .ok value ∧ after = floor := by
  rw [compute_apply] at done
  cases answer with
  | error fault => cases done
  | ok found =>
    cases done
    exact ⟨rfl, rfl⟩

theorem reads_reach (point : AccessPoint) : (reach point).Reads := by
  intro floor
  rw [reach_apply]
  rfl

theorem reads_read (point : AccessPoint) (answer : Store → α) : (read point answer).Reads := by
  intro floor
  rw [read_apply]
  rfl

theorem reads_loadItem (id : ItemId) : (loadItem id).Reads := by
  refine (reads_read .item _).bind fun found => ?_
  cases found with
  | none => exact reads_refuse _
  | some item => exact reads_pure item

theorem reads_loadRound (id : ItemId) (round : Round) : (loadRound id round).Reads := by
  refine (reads_loadItem id).bind fun item => ?_
  split
  · exact reads_pure item
  · exact reads_refuse _

theorem reads_standing (item : Item) (round : Round) : (standing item round).Reads :=
  (reads_read .bidsFor _).bind fun _ => reads_pure _

theorem bind_eq_ok {floor after : Floor} {result : β}
    (done : (action >>= next) floor = (.ok result, after)) :
    ∃ answer mid, action floor = (.ok answer, mid) ∧ next answer mid = (.ok result, after) := by
  rcases bind_cases action next floor with ⟨stop, mid, -, all⟩ | ⟨answer, mid, first, all⟩
  · rw [all] at done
    cases done
  · exact ⟨answer, mid, first, all.symm.trans done⟩

/-- What is attempted with success is done, or it is refused. -/
theorem attempt_eq_ok {result : Except Refusal α} {floor after : Floor}
    (done : action.attempt floor = (.ok result, after)) :
    (∃ answer, result = .ok answer ∧ action floor = (.ok answer, after)) ∨
      ∃ refusal, result = .error refusal := by
  rw [attempt_apply] at done
  rcases result_eq : action floor with ⟨stop | answer, mid⟩
  · rw [result_eq] at done
    cases stop with
    | refused refusal =>
      cases done
      exact .inr ⟨refusal, rfl⟩
    | faulted fault => cases done
  · rw [result_eq] at done
    cases done
    exact .inl ⟨answer, rfl, rfl⟩

theorem loadItem_eq_ok {id : ItemId} {item : Item} {floor after : Floor}
    (done : loadItem id floor = (.ok item, after)) :
    floor.store.item? id = some item ∧ after = floor.called .item := by
  obtain ⟨listed?, read_floor, reached, loaded⟩ := bind_eq_ok done
  obtain ⟨listed, rfl⟩ := read_eq_ok reached
  cases listed? with
  | none => cases loaded
  | some _ =>
    cases loaded
    exact ⟨listed.symm, rfl⟩

theorem loadRound_eq_ok {id : ItemId} {round : Round} {item : Item} {floor after : Floor}
    (done : loadRound id round floor = (.ok item, after)) :
    floor.store.item? id = some item ∧ item.round = round ∧ after = floor.called .item := by
  obtain ⟨found, mid, loaded, done⟩ := bind_eq_ok done
  obtain ⟨listed, rfl⟩ := loadItem_eq_ok loaded
  by_cases current : found.round = round
  · rw [if_pos current] at done
    cases done
    exact ⟨listed, current, rfl⟩
  · rw [if_neg current] at done
    cases done

theorem standing_eq_ok {item : Item} {round : Round} {result : Standing} {floor after : Floor}
    (done : standing item round floor = (.ok result, after)) :
    result = floor.store.standing item round ∧ after = floor.called .bidsFor := by
  obtain ⟨bids, mid, reached, done⟩ := bind_eq_ok done
  obtain ⟨rfl, rfl⟩ := read_eq_ok reached
  cases done
  exact ⟨rfl, rfl⟩

/-- A write that fails leaves the store as it is. -/
theorem traceless_write (change : Store → Except StorageError (α × Store)) :
    (write change).Traceless := by
  intro floor stop
  rw [write_apply]
  cases change floor.store with
  | error error => exact fun _ => rfl
  | ok written => exact fun impossible => nomatch impossible

theorem putProxy_apply (proxy : Proxy) (floor : Floor) :
    putProxy proxy floor =
      if floor.outages.failsNow .putProxy then
        (.error (.refused (.storage (.unavailable .putProxy))), floor.called .putProxy)
      else (.ok (floor.store.putProxy proxy).1,
        { floor.called .putProxy with store := (floor.store.putProxy proxy).2 }) := by
  unfold putProxy
  rw [bind_apply, reach_apply]
  cases floor.outages.failsNow .putProxy <;> rfl

theorem putProxy_eq_ok {proxy saved : Proxy} {floor after : Floor}
    (done : putProxy proxy floor = (.ok saved, after)) :
    saved = (floor.store.putProxy proxy).1 ∧
      after = { floor.called .putProxy with store := (floor.store.putProxy proxy).2 } := by
  rw [putProxy_apply] at done
  split at done
  · cases done
  · cases done
    exact ⟨rfl, rfl⟩

theorem deleteProxy_apply (id : ProxyId) (floor : Floor) :
    deleteProxy id floor =
      if floor.outages.failsNow .deleteProxy then
        (.error (.refused (.storage (.unavailable .deleteProxy))), floor.called .deleteProxy)
      else (.ok (), { floor.called .deleteProxy with store := floor.store.deleteProxy id }) := by
  unfold deleteProxy
  rw [bind_apply, reach_apply]
  cases floor.outages.failsNow .deleteProxy <;> rfl

theorem traceless_putProxy (proxy : Proxy) : (putProxy proxy).Traceless :=
  (reads_reach .putProxy).bind_traceless fun _ => traceless_write _

theorem traceless_appendClosing (bid : NewBid) (workflow : Workflow) :
    (appendClosing bid workflow).Traceless :=
  (reads_reach .appendClosing).bind_traceless fun _ => traceless_write _

/-- The points that are called to write a batch. -/
def batchPoints : List AccessPoint := [.append, .pair, .lost]

/-- What an attempt to write a batch can do. -/
inductive Appended (bids : List NewBid) (floor : Floor) : Except Stop (List Bid) × Floor → Prop
    where
  | unreached {point : AccessPoint} {after : Floor} (stored : after.store = floor.store)
      (outside : floor.outages.SameOutside batchPoints after.outages) :
      Appended bids floor (.error (.refused (.storage (.unavailable point))), after)
  | lost {after : Floor} (stored : after.store = floor.store)
      (lossy : ¬ floor.outages.Lossless) : Appended bids floor (.ok [], after)
  | written {after : Floor} (stored : after.store = (floor.store.append bids).2)
      (outside : floor.outages.SameOutside batchPoints after.outages) :
      Appended bids floor (.ok (floor.store.append bids).1, after)

theorem appended (bids : List NewBid) (floor : Floor) :
    Appended bids floor (append bids floor) := by
  -- Once all points are reached, the batch is lost or written.
  have reached (mid : Floor) (stored : mid.store = floor.store)
      (outside : floor.outages.SameOutside batchPoints mid.outages)
      (lossless : floor.outages.Lossless → mid.outages.Lossless) :
      Appended bids floor ((do
        if ← failing .lost then return []
        write fun store => .ok (store.append bids) : Action (List Bid)) mid) := by
    have failing_eq : failing .lost mid = (.ok (mid.outages.failsNow .lost), mid.called .lost) :=
      rfl
    rw [bind_apply, failing_eq]
    cases lost : mid.outages.failsNow .lost with
    | true =>
      refine .lost stored fun kept => ?_
      exact Bool.noConfusion (lost.symm.trans (lossless kept).failsNow)
    | false =>
      have written : write (fun store => .ok (store.append bids)) (mid.called .lost) =
          (.ok (floor.store.append bids).1,
            { mid.called .lost with store := (floor.store.append bids).2 }) := by
        rw [← stored]
        exact write_apply _ _
      simp only [Bool.false_eq_true, if_false, written]
      exact .written rfl (outside.after (by decide))
  have outside_append : floor.outages.SameOutside batchPoints (floor.outages.after .append) :=
    Outages.SameOutside.after (fun _ _ => rfl) (by decide)
  unfold append
  rw [bind_apply, reach_apply]
  cases floor.outages.failsNow .append with
  | true => exact .unreached rfl outside_append
  | false =>
    by_cases pair : bids.length = 2
    · simp only [if_pos pair]
      have outside_pair : floor.outages.SameOutside batchPoints
          ((floor.outages.after .append).after .pair) := outside_append.after (by decide)
      simp only [Bool.false_eq_true, if_false]
      rw [bind_apply, reach_apply]
      cases (floor.called .append).outages.failsNow .pair with
      | true => exact .unreached rfl outside_pair
      | false => exact reached ((floor.called .append).called .pair) rfl outside_pair id
    · simp only [if_neg pair]
      exact reached (floor.called .append) rfl outside_append id

end Action

namespace House

open AuctionHouse.Action

variable {house : House} {caller : Caller} {id : ItemId} {round : Round} {amount : Decimal}
  {kind : BidKind}

theorem reads_authorize (house : House) (user : UserId) : (house.authorize user).Reads := by
  intro floor
  rw [authorize_apply]

theorem reads_demand (violations : List Violation) : (demand violations).Reads := by
  intro floor
  rw [demand_apply]

theorem authorize_eq_ok {user : UserId} {floor after : Floor}
    (done : house.authorize user floor = (.ok (), after)) :
    house.mayBid user = true ∧ after = floor := by
  rw [authorize_apply] at done
  by_cases authorized : house.mayBid user = true
  · rw [if_pos authorized] at done
    cases done
    exact ⟨authorized, rfl⟩
  · rw [if_neg authorized] at done
    cases done

theorem demand_eq_ok {violations : List Violation} {floor after : Floor}
    (done : demand violations floor = (.ok (), after)) : violations = [] ∧ after = floor := by
  rw [demand_apply] at done
  by_cases valid : violations = []
  · rw [if_pos valid] at done
    cases done
    exact ⟨valid, rfl⟩
  · rw [if_neg valid] at done
    cases done

/-- The beginning of a call for a round that does not stop, and what comes after it. -/
theorem accept_eq_ok {α : Type} {user : UserId} {violations : Item → Standing → List Violation}
    {rest : Item → Standing → Action α} {answer : α} {floor after : Floor}
    (done : (do
      house.authorize user
      let _ ← loadRound id round
      let item ← loadRound id round
      let before ← standing item round
      demand (violations item before)
      rest item before : Action α) floor = (.ok answer, after)) :
    ∃ item, house.mayBid user = true ∧ floor.store.item? id = some item ∧ item.round = round ∧
      violations item (floor.store.standing item round) = [] ∧
      rest item (floor.store.standing item round)
        (((floor.called .item).called .item).called .bidsFor) = (.ok answer, after) := by
  obtain ⟨_, _, authorizes, loads⟩ := bind_eq_ok done
  obtain ⟨authorized, same⟩ := authorize_eq_ok authorizes
  rw [same] at loads
  obtain ⟨_, _, loaded, loads_again⟩ := bind_eq_ok loads
  obtain ⟨-, -, rfl⟩ := loadRound_eq_ok loaded
  obtain ⟨item, _, loaded_again, reads⟩ := bind_eq_ok loads_again
  obtain ⟨listed, current, rfl⟩ := loadRound_eq_ok loaded_again
  obtain ⟨before, _, read, demands⟩ := bind_eq_ok reads
  obtain ⟨rfl, rfl⟩ := standing_eq_ok read
  obtain ⟨_, _, demanded, goes_on⟩ := bind_eq_ok demands
  obtain ⟨valid, same⟩ := demand_eq_ok demanded
  rw [same] at goes_on
  exact ⟨item, authorized, listed, current, valid, goes_on⟩

theorem certain_notifyOutbid (previous : Option UserId) (leader : UserId) :
    (notifyOutbid id round previous leader amount).Certain := by
  intro floor stop
  rw [notifyOutbid_apply]
  exact nofun

theorem reads_notifyOutbid (previous : Option UserId) (leader : UserId) :
    (notifyOutbid id round previous leader amount).Reads := by
  intro floor
  rw [notifyOutbid_apply]

/-- A bid that cannot be written with its answer leaves no trace. -/
theorem traceless_bookBid (previous : Option UserId) (bid : NewBid) (counter : Option NewBid) :
    (bookBid caller id round previous bid counter).Traceless := by
  intro floor stop
  have batch := appended (bid :: counter.toList) floor
  unfold bookBid
  rw [bind_apply]
  generalize append (bid :: counter.toList) floor = result at batch
  cases batch with
  | unreached stored _ => exact fun _ => stored
  | lost stored _ => exact fun _ => stored
  | written stored _ =>
    rw [append_receipt]
    refine fun stopped => absurd stopped ?_
    refine (certain_notifyOutbid _ _).bind (fun _ => ?_) _ stop
    split
    · exact (certain_notifyOutbid _ _).bind fun _ => certain_pure _
    · exact certain_pure _

/-- A bid by hand reads, and then it is written with its answer. -/
theorem traceless_placeBid : (house.placeBid caller id round amount kind).Traceless := by
  refine (reads_authorize house caller.user).bind_traceless fun _ => ?_
  refine (reads_loadRound id round).bind_traceless fun _ => ?_
  refine (reads_loadRound id round).bind_traceless fun item => ?_
  refine (reads_standing item round).bind_traceless fun before => ?_
  refine (reads_demand _).bind_traceless fun _ => ?_
  have booked (counter : Option NewBid) : (bookBid caller id round before.leader?
      (byHand caller id round amount kind) counter).Traceless := traceless_bookBid _ _ _
  by_cases enabled : house.config.autobidEnabled = true
  · simp only [if_pos enabled]
    refine (reads_read .activeProxies _).bind_traceless fun proxies => ?_
    exact (reads_compute _).bind_traceless booked
  · simp only [if_neg enabled]
    exact (reads_pure none).bind_traceless booked

/-- A purchase reads, and then it is written and all are told. -/
theorem traceless_placeBuyNow : (house.placeBuyNow caller id).Traceless := by
  refine (reads_authorize house caller.user).bind_traceless fun _ => ?_
  refine (reads_loadItem id).bind_traceless fun found => ?_
  refine (reads_loadRound id found.round).bind_traceless fun item => ?_
  refine (reads_demand _).bind_traceless fun _ => ?_
  refine (reads_standing item found.round).bind_traceless fun before => ?_
  refine (traceless_appendClosing _ _).bind_certain fun _ => ?_
  refine (certain_notifyOutbid _ _).bind fun _ => ?_
  exact (certain_notify _).bind fun _ => certain_pure _

theorem traceless_removeProxy : (removeProxy caller id round).Traceless := by
  refine (reads_loadRound id round).bind_traceless fun _ => ?_
  refine (reads_loadRound id round).bind_traceless fun _ => ?_
  refine (reads_read .activeProxy _).bind_traceless fun found => ?_
  cases found with
  | none => exact (reads_pure _).traceless
  | some proxy => exact (traceless_putProxy _).bind_certain fun _ => certain_pure _

end House

end AuctionHouse
