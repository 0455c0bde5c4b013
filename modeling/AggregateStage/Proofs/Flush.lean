import AggregateStage.Proofs.Totals

/-! What a flush consists of. Work items and keys share one shape of result, and an id may
be any text, so only the count tells them apart: it is zero for a work item and, while
fewer than 2^63 events were observed, positive for a key. -/
namespace AggregateStage.Accumulator

variable {events : List Event} {a : Accumulator} {order : KeyOrder} {result : Result}

/-- The order of the keys neither adds nor drops one. -/
theorem mem_keyed : result ∈ a.keyed order ↔
    ∃ entry, a.get? result.key = some entry ∧ result = entry.result result.key := by
  simp only [keyed, List.mem_map, (order.perm a.entries.toList).mem_iff]
  constructor
  · rintro ⟨⟨key, entry⟩, member, rfl⟩
    exact ⟨entry, (mem_entries a key entry).mp member, rfl⟩
  · rintro ⟨entry, found, equal⟩
    exact ⟨(result.key, entry), (mem_entries a _ entry).mpr found, equal.symm⟩

theorem keyed_keys : (a.keyed order).map Result.key =
    (order.arrange a.entries.toList).map Prod.fst := by
  simp [keyed, Entry.result, Function.comp_def]

theorem keyed_keys_nodup : ((a.keyed order).map Result.key).Nodup := by
  rw [keyed_keys]
  exact ((order.perm a.entries.toList).map Prod.fst).nodup_iff.mpr a.keys_nodup

theorem mem_keyed_keys (key : String) :
    key ∈ (a.keyed order).map Result.key ↔ (a.get? key).isSome := by
  rw [List.mem_map, Option.isSome_iff_exists]
  constructor
  · rintro ⟨result, member, rfl⟩
    obtain ⟨entry, found, _⟩ := mem_keyed.mp member
    exact ⟨entry, found⟩
  · rintro ⟨entry, found⟩
    exact ⟨entry.result key, mem_keyed.mpr ⟨entry, found, rfl⟩, rfl⟩

theorem keyed_length : (a.keyed order).length = a.entries.size := by
  rw [keyed, List.length_map, (order.perm a.entries.toList).length_eq, Std.TreeMap.length_toList]

theorem flushIn_length : (a.flushIn order).length = a.size := by
  rw [flushIn, List.length_append, List.length_map, keyed_length, size, Nat.add_comm]

theorem isEmpty_iff : a.isEmpty ↔ a.flushIn order = [] := by
  rw [← List.length_eq_zero_iff, flushIn_length, isEmpty, beq_iff_eq]

/-- Below 2^63 the count is not wrapped. -/
theorem Tallies.count_toInt (valid : Tallies events a) (few : events.length < 2 ^ 63)
    (member : result ∈ a.keyed order) :
    result.count.toInt = (valuesOf result.key events).length ∧
    0 < (valuesOf result.key events).length ∧ (valuesOf result.key events).length < 2 ^ 63 := by
  obtain ⟨entry, found, equal⟩ := mem_keyed.mp member
  obtain ⟨present, rfl⟩ := valid.eq_ofValues found
  have bound : (valuesOf result.key events).length < 2 ^ 63 := by
    refine Nat.lt_of_le_of_lt ?_ few
    rw [valuesOf, List.length_map]
    exact List.length_filter_le _ _
  refine ⟨?_, List.length_pos_iff.mpr present, bound⟩
  rw [equal]
  exact Int64.toInt_ofNat_of_lt bound

theorem Tallies.count_range (valid : Tallies events a) (few : events.length < 2 ^ 63)
    (member : result ∈ a.keyed order) :
    1 ≤ result.count.toInt ∧ result.count.toInt ≤ 2 ^ 63 - 1 := by
  obtain ⟨exact, positive, bound⟩ := valid.count_toInt few member
  omega

/-- The mean of a key is a quotient whose divisor is not zero. -/
theorem average_of_pos (entry : Entry) (positive : 1 ≤ entry.count.toInt) :
    entry.average = Binary64.ofInt64 entry.sum / Binary64.ofInt64 entry.count := by
  have nonzero : 0 < entry.count := by
    rw [Int64.lt_iff_toInt_lt, Int64.toInt_zero]
    omega
  rw [Entry.average, if_pos nonzero]

theorem filter_flushIn (a : Accumulator) (order : KeyOrder) (accept : Result → Bool)
    (items : ∀ item ∈ a.workItems, accept item.result = true)
    (keys : ∀ result ∈ a.keyed order, accept result = false) :
    (a.flushIn order).filter accept = a.workItems.map ScoredItem.result ∧
    (a.flushIn order).filter (fun result => !accept result) = a.keyed order := by
  have first : (a.workItems.map ScoredItem.result).filter accept =
      a.workItems.map ScoredItem.result := by
    apply List.filter_eq_self.mpr
    simpa using items
  have second : (a.keyed order).filter accept = [] := by
    apply List.filter_eq_nil_iff.mpr
    intro result member
    simp [keys result member]
  have rejected :
      (a.workItems.map ScoredItem.result).filter (fun result => !accept result) = [] := by
    apply List.filter_eq_nil_iff.mpr
    simpa using items
  have kept : (a.keyed order).filter (fun result => !accept result) = a.keyed order := by
    apply List.filter_eq_self.mpr
    simpa using keys
  simp [flushIn, first, second, rejected, kept]

/-- A flush is the work items in order and then each observed key once, and the count alone
separates the two, whatever the ids are. -/
theorem flush_separates (uses : List Use) (order : KeyOrder)
    (few : (observed uses).length < 2 ^ 63) :
    let a := run uses
    let items := (itemsOf (observed uses)).map ScoredItem.result
    a.flushIn order = items ++ a.keyed order ∧
    ((a.keyed order).map Result.key).Nodup ∧
    (∀ key, key ∈ (a.keyed order).map Result.key ↔
      key ≠ workItemType ∧ ∃ event ∈ observed uses, event.type = key) ∧
    (a.flushIn order).length = a.size ∧
    (a.isEmpty ↔ a.flushIn order = []) ∧
    (∀ result ∈ a.keyed order,
      result.count.toInt = (valuesOf result.key (observed uses)).length ∧
      1 ≤ result.count.toInt ∧ result.count.toInt ≤ 2 ^ 63 - 1 ∧
      result.sum.toInt =
        ((valuesOf result.key (observed uses)).map Int64.toInt).sum.bmod (2 ^ 64) ∧
      result.average = Binary64.ofInt64 result.sum / Binary64.ofInt64 result.count) ∧
    (∀ result ∈ items, result.count = 0) ∧
    (a.flushIn order).filter (fun result => result.count == 0) = items ∧
    (a.flushIn order).filter (fun result => !(result.count == 0)) = a.keyed order := by
  intro a items
  have valid := tallies_run uses
  have same : a.workItems.map ScoredItem.result = items := by rw [valid.items]
  have separated := filter_flushIn a order (fun result => result.count == 0) (fun _ _ => rfl) (by
      intro result member
      have range := valid.count_range few member
      have nonzero : result.count ≠ 0 := by
        intro zero
        rw [zero, Int64.toInt_zero] at range
        omega
      simpa using nonzero)
  rw [same] at separated
  refine ⟨by rw [← same]; rfl, keyed_keys_nodup, ?_, flushIn_length, isEmpty_iff, ?_, ?_, separated⟩
  · intro key
    rw [mem_keyed_keys, valid.isSome_iff]
  · intro result member
    obtain ⟨low, high⟩ := valid.count_range few member
    obtain ⟨entry, found, equal⟩ := mem_keyed.mp member
    refine ⟨(valid.count_toInt few member).1, low, high, ?_, ?_⟩
    · obtain ⟨_, totals⟩ := valid.eq_ofValues found
      have sum : result.sum = entry.sum := congrArg Result.sum equal
      rw [sum, totals]
      exact (Entry.ofValues_toInt _).2
    · rw [equal] at low ⊢
      exact average_of_pos entry low
  · intro result member
    obtain ⟨item, _, rfl⟩ := List.mem_map.mp member
    rfl

/-- Ids that are empty or equal to a key are told apart from it. -/
theorem flush_separates_same_id :
    let uses : List Use := [.single (.keyed "w1" 5),
      .batch [⟨.workItem "[\"w1\"]", true⟩, ⟨.keyed "w1" 7, true⟩, ⟨.workItem "null", true⟩]]
    (observed uses).length < 2 ^ 63 ∧
    ((run uses).flushIn .ascending).map Result.key = ["w1", "", "w1"] ∧
    (((run uses).flushIn .ascending).filter fun result => result.count == 0).map Result.key =
      ["w1", ""] ∧
    (((run uses).flushIn .ascending).filter fun result => !(result.count == 0)).map Result.key =
      ["w1"] := by
  intro uses
  have few : (observed uses).length < 2 ^ 63 := by decide
  obtain ⟨whole, _, _, _, _, _, _, items, keys⟩ := flush_separates uses .ascending few
  refine ⟨few, ?_, ?_, ?_⟩
  · decide +kernel
  · rw [items]
    decide +kernel
  · rw [keys]
    decide +kernel

end AggregateStage.Accumulator
