import AuctionHouse.Proofs.House.Access
import AuctionHouse.Proofs.House.Leading

/-!
# Who is told of a ceiling

A ceiling that is answered sends notices only if bids are written for it, whatever else fails
(`setProxy_eq_ok`).  They go to the leader before it and to its user, to each once, except to the
one who leads in the end (`TellsLosers`).
-/

namespace AuctionHouse

namespace Action

variable {α β : Type} {action : Action α} {next : α → Action β}

/-- Whether an action sends no notices. -/
def Silent (action : Action α) : Prop := ∀ floor, (action floor).2.notices = floor.notices

theorem Silent.bind (silent : action.Silent) (rest : ∀ answer, (next answer).Silent) :
    (action >>= next).Silent := by
  intro floor
  have same := silent floor
  rcases bind_cases action next floor with ⟨stop, after, first, all⟩ | ⟨answer, mid, first, all⟩
  · rw [all, ← same, first]
  · rw [first] at same
    rw [all]
    exact (rest answer mid).trans same

theorem silent_reach (point : AccessPoint) : (reach point).Silent := by
  intro floor
  rw [reach_apply]
  rfl

theorem silent_write (change : Store → Except StorageError (α × Store)) :
    (write change).Silent := by
  intro floor
  rw [write_apply]
  cases change floor.store <;> rfl

theorem silent_append (bids : List NewBid) : (append bids).Silent := by
  have lost_or_written : (do
      if ← failing .lost then return []
      write fun store => .ok (store.append bids) : Action (List Bid)).Silent := by
    refine Silent.bind (fun _ => rfl) fun lost => ?_
    split
    · exact fun _ => rfl
    · exact silent_write _
  unfold append
  refine (silent_reach .append).bind fun _ => ?_
  by_cases pair : bids.length = 2
  · simp only [if_pos pair]
    exact (silent_reach .pair).bind fun _ => lost_or_written
  · simp only [if_neg pair]
    exact lost_or_written

/-- A batch that is not lost is written, and nobody is told. -/
theorem append_eq_ok {bids : List NewBid} {written : List Bid} {floor after : Floor}
    (lossless : floor.outages.Lossless) (done : append bids floor = (.ok written, after)) :
    after.store = (floor.store.append bids).2 ∧ after.notices = floor.notices := by
  have silent := silent_append bids floor
  have batch := appended bids floor
  rw [done] at silent batch
  cases batch with
  | lost _ lossy => exact absurd lossless lossy
  | written stored _ => exact ⟨stored, silent⟩

end Action

namespace House

open AuctionHouse.Action

variable {house : House} {store : Store} {caller : Caller} {id : ItemId} {round : Round}
  {ceiling : Decimal} {item : Item} {bids : List NewBid}

/-- What is done about the bids of a ceiling that is answered. -/
theorem bookCeiling_eq_ok {before : Standing} {previous : Option Proxy} {saved answer : Proxy}
    {floor after : Floor}
    (done : bookCeiling caller id round item before previous saved bids floor =
      (.ok answer, after)) (lossless : floor.outages.Lossless) :
    after.store = (floor.store.append bids).2 ∧
      after.notices = floor.notices ++ if bids = [] then []
        else ceilingNotices id round before (after.store.standing item round) caller.user := by
  unfold bookCeiling at done
  by_cases empty : bids = []
  · subst empty
    cases done
    exact ⟨rfl, (List.append_nil _).symm⟩
  · rw [if_neg (mt List.isEmpty_iff.1 empty)] at done
    rw [if_neg empty]
    obtain ⟨result, mid, attempted, done⟩ := bind_eq_ok done
    rcases attempt_eq_ok attempted with ⟨written, rfl, wrote⟩ | ⟨refusal, rfl⟩
    · obtain ⟨stored, silent⟩ := append_eq_ok lossless wrote
      obtain ⟨standing, read, reached, done⟩ := bind_eq_ok done
      obtain ⟨rfl, rfl⟩ := standing_eq_ok reached
      rw [← stored, ← silent]
      -- From here on, the store stays and those who do not lead are told.
      cases leading : (mid.store.standing item round).leader? with
      | none =>
        simp only [leading] at done
        cases done
        refine ⟨rfl, ?_⟩
        unfold ceilingNotices
        simp only [Floor.called, leading, List.append_nil]
      | some leader =>
        simp only [leading, bind_apply, notifyOutbid_apply] at done
        by_cases own : before.leader? = some caller.user
        · rw [if_neg (not_not.2 own)] at done
          cases done
          refine ⟨rfl, ?_⟩
          unfold ceilingNotices
          simp only [Floor.called, leading, if_pos own, List.append_nil]
        · rw [if_pos own] at done
          simp only [bind_apply, notifyOutbid_apply] at done
          cases done
          refine ⟨rfl, ?_⟩
          unfold ceilingNotices
          simp only [Floor.called, leading, if_neg own, List.append_assoc]
    · obtain ⟨_, _, -, refused⟩ := bind_eq_ok done
      cases refused

/-- What a ceiling does if it is answered, wherever the store fails. -/
theorem setProxy_eq_ok {saved : Proxy} {floor after : Floor} (lossless : floor.outages.Lossless)
    (done : house.setProxy caller id round ceiling floor = (.ok saved, after)) :
    ∃ item bids, CeilingTaken house floor.store caller id round ceiling item ∧
      house.ceilingAnswer floor.store caller id round ceiling item = .ok bids ∧
      after.store = ((ceilingPut floor.store caller id round ceiling).2.append bids).2 ∧
      after.notices = floor.notices ++ if bids = [] then []
        else ceilingNotices id round (floor.store.standing item round)
          (after.store.standing item round) caller.user := by
  obtain ⟨item, authorized, listed, current, valid, puts⟩ := @accept_eq_ok house id round Proxy
    caller.user (fun item before => Validation.ceilingViolations item
      (item.window.statusAt caller.now) before ceiling.roundCents house.config.autobidEnabled)
    (fun item before => house.putCeiling caller id round ceiling item before) saved floor after done
  have puts : house.putCeiling caller id round ceiling item (floor.store.standing item round) _ =
    _ := puts
  unfold putCeiling at puts
  obtain ⟨previous, _, found, saves⟩ := bind_eq_ok puts
  obtain ⟨rfl, rfl⟩ := read_eq_ok found
  obtain ⟨put, _, saved_now, reads⟩ := bind_eq_ok saves
  obtain ⟨rfl, rfl⟩ := putProxy_eq_ok saved_now
  obtain ⟨proxies, _, read, computes⟩ := bind_eq_ok reads
  obtain ⟨rfl, rfl⟩ := read_eq_ok read
  obtain ⟨bids, _, computed, books⟩ := bind_eq_ok computes
  obtain ⟨answered, rfl⟩ := compute_eq_ok computed
  obtain ⟨stored, told⟩ := bookCeiling_eq_ok books lossless
  exact ⟨item, bids, ⟨authorized, listed, current, valid⟩, answered, stored, told⟩

/-- Whether some notices tell those who have lost by a ceiling: the leader before it and its user,
each once, except the one who leads in the end. -/
structure TellsLosers (notices : List Notice) (id : ItemId) (round : Round)
    (before : Option UserId) (caller leader : UserId) (price : Decimal) : Prop where
  once : notices.Nodup
  told : ∀ notice, notice ∈ notices ↔ ∃ user, (before = some user ∨ user = caller) ∧
    user ≠ leader ∧ notice = .outbid id round user leader price

theorem nodup_outbidNotices (previous : Option UserId) (leader : UserId) (price : Decimal) :
    (outbidNotices id round previous leader price).Nodup := by
  unfold outbidNotices
  cases previous with
  | none => exact List.nodup_nil
  | some user =>
    simp only
    split
    · exact List.nodup_nil
    · exact List.pairwise_singleton _ _

/-- The notices that the bids of a ceiling send tell those who have lost by it. -/
theorem tellsLosers_ceilingNotices {before after : Standing} {user leader : UserId}
    (leads : after.leader? = some leader) :
    TellsLosers (ceilingNotices id round before after user) id round before.leader? user leader
      after.minPrice := by
  unfold ceilingNotices
  rw [leads]
  simp only
  by_cases own : before.leader? = some user
  · rw [if_pos own, List.append_nil, own]
    refine ⟨nodup_outbidNotices _ _ _, fun notice => ?_⟩
    simp only [mem_outbidNotices, Option.some.injEq, @eq_comm _ user, or_self]
  · rw [if_neg own]
    refine ⟨List.nodup_append.2 ⟨nodup_outbidNotices _ _ _, nodup_outbidNotices _ _ _, ?_⟩, ?_⟩
    · -- A notice that is sent twice would be to the caller, who did not lead.
      rintro first first_mem second second_mem rfl
      obtain ⟨previous, led, -, eq⟩ := mem_outbidNotices.1 first_mem
      obtain ⟨other, other_eq, -, eq'⟩ := mem_outbidNotices.1 second_mem
      obtain rfl : user = other := Option.some.inj other_eq
      obtain rfl : previous = user := by
        rw [eq] at eq'
        injection eq'
      exact own led
    · intro notice
      simp only [List.mem_append, mem_outbidNotices, Option.some.injEq, @eq_comm _ user,
        or_and_right, exists_or]

/-- If bids are written for a ceiling, someone leads. -/
theorem exists_leader_of_ceilingAnswer
    (answered : house.ceilingAnswer store caller id round ceiling item = .ok bids)
    (nonempty : bids ≠ []) :
    ∃ leader, (((ceilingPut store caller id round ceiling).2.append bids).2.standing item
      round).leader? = some leader := by
  obtain ⟨bid, mem⟩ := List.exists_mem_of_ne_nil bids nonempty
  obtain ⟨user, amount, bid_eq⟩ := eq_autoBid_of_mem_ceilingBids answered mem
  let put := (ceilingPut store caller id round ceiling).2
  obtain ⟨written, written_mem, same⟩ :=
    @Store.exists_numbered_of_mem put.nextBidId bids bid mem
  have in_ledger : written ∈ (put.append bids).2.ledger := by
    rw [Store.append_eq]
    exact List.mem_append_right _ written_mem
  rw [← same] at bid_eq
  have here : written ∈ (put.append bids).2.bidsFor item.id round :=
    (Store.mem_bidsFor _).2
      ⟨in_ledger, congrArg NewBid.item bid_eq, congrArg NewBid.round bid_eq⟩
  have counts : written.counts = true := by
    rw [bid_eq]
    rfl
  cases leading : ((put.append bids).2.standing item round).lead with
  | none =>
    rw [Ranking.winner?_eq_none_iff.1 leading written here] at counts
    cases counts
  | some lead =>
    refine ⟨lead.user, ?_⟩
    rw [Standing.leader?, leading]
    rfl

/-- A ceiling writes its bids and nothing else into the ledger. -/
theorem ledger_ceiling_eq_iff (bids : List NewBid) :
    ((ceilingPut store caller id round ceiling).2.append bids).2.ledger = store.ledger ↔
      bids = [] := by
  rw [Store.ledger_append, ledger_ceilingPut, List.append_right_eq_self, Store.append_eq]
  cases bids with
  | nil => exact ⟨fun _ => rfl, fun _ => rfl⟩
  | cons bid rest => exact ⟨nofun, nofun⟩

/-- In every state and wherever the store fails, a ceiling that is answered tells exactly those who
have lost by it if bids are written for it, and nobody if there are none. -/
theorem ceiling_told (house : House) {floor after : Floor} {saved : Proxy}
    (lossless : floor.outages.Lossless)
    (done : house.setProxy caller id round ceiling floor = (.ok saved, after)) :
    ∃ item sent, floor.store.item? id = some item ∧ after.notices = floor.notices ++ sent ∧
      (after.store.ledger = floor.store.ledger → sent = []) ∧
      (after.store.ledger ≠ floor.store.ledger →
        ∃ leader, (after.store.standing item round).leader? = some leader ∧
          TellsLosers sent id round (floor.store.standing item round).leader? caller.user leader
            (after.store.standing item round).minPrice) := by
  obtain ⟨item, bids, taken, answered, stored, told⟩ := setProxy_eq_ok lossless done
  refine ⟨item, _, taken.listed, told, ?_, ?_⟩
  · intro same
    rw [stored, ledger_ceiling_eq_iff] at same
    exact if_pos same
  · intro different
    rw [stored, ne_eq, ledger_ceiling_eq_iff] at different
    obtain ⟨leader, leads⟩ := exists_leader_of_ceilingAnswer answered different
    rw [← stored] at leads
    refine ⟨leader, leads, ?_⟩
    rw [if_neg different]
    exact tellsLosers_ceilingNotices leads

theorem ceiling_told_vase :
    let store := run {}
      [.register .vase, .call ⟨2, .hour 1⟩ (.placeBid 1 0 (.whole 12) .standard)]
    ∃ saved after, setProxy {} ⟨3, .hour 2⟩ 1 0 (.whole 20) { store } = (.ok saved, after) ∧
      (after.store.standing .vase 0).leader? = some 3 ∧
      ∀ notice, notice ∈ after.notices ↔
        notice = .outbid 1 0 2 3 (after.store.standing .vase 0).minPrice := by
  intro store
  let opening : NewBid := Settlement.autoBid 1 0 3 (.whole 13) (.hour 2)
  let after := ((ceilingPut store ⟨3, .hour 2⟩ 1 0 (.whole 20)).2.append [opening]).2
  have taken : ceilingItem {} store ⟨3, .hour 2⟩ 1 0 (.whole 20) = .ok .vase := by decide +kernel
  have answered : ceilingAnswer {} store ⟨3, .hour 2⟩ 1 0 (.whole 20) .vase = .ok [opening] := by
    decide +kernel
  have bids_eq : after.bidsFor Item.vase.id 0 =
      [{ byHand ⟨2, .hour 1⟩ 1 0 (.whole 12) .standard with id := 1 },
        { opening with id := 2 }] := by
    decide +kernel
  have leads : (after.standing .vase 0).leader? = some 3 := by
    unfold Standing.leader? Store.standing
    rw [bids_eq, Ranking.lead_pair _ (by decide) rfl rfl]
    decide +kernel
  have led : (store.standing .vase 0).leader? = some 2 := by decide +kernel
  obtain ⟨calls, set_eq⟩ := setProxy_calm {} store ⟨3, .hour 2⟩ 1 0 (.whole 20) [] []
  simp only [taken, answered] at set_eq
  refine ⟨_, _, set_eq, leads, ?_⟩
  obtain ⟨item, sent, listed, told, -, losers⟩ := ceiling_told {} (fun _ => rfl) set_eq
  have vase_eq : store.item? 1 = some .vase := by decide +kernel
  obtain rfl : item = .vase := Option.some.inj (listed.symm.trans vase_eq)
  have different : after.ledger ≠ store.ledger := by decide +kernel
  obtain ⟨leader, leads', -, exactly⟩ := losers different
  obtain rfl : leader = 3 := Option.some.inj (leads'.symm.trans leads)
  intro notice
  rw [told]
  refine (exactly notice).trans ⟨?_, fun eq => ⟨2, .inl led, by decide, eq⟩⟩
  rintro ⟨user, before | own, other, eq⟩
  · obtain rfl : user = 2 := Option.some.inj (before.symm.trans led)
    exact eq
  · exact absurd own other

end House

end AuctionHouse
