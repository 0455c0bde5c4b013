import AggregateStage.Named

/-! Values under names, each name once: what is found under a name, and that setting values
keeps the names apart. -/
namespace AggregateStage.Named

variable {α : Type} {entries : List (String × α)} {name : String}

theorem lookup_cons (entries : List (String × α)) (name : String) (value : α) (key : String) :
    ((name, value) :: entries).lookup key = if key = name then some value else entries.lookup key := by
  rw [List.lookup_cons]
  by_cases same : key = name
  · simp [same]
  · rw [beq_false_of_ne same, if_neg same]

theorem lookup_put (entries : List (String × α)) (name : String) (value : α) (key : String) :
    (put entries name value).lookup key = if key = name then some value else entries.lookup key := by
  induction entries with
  | nil => exact lookup_cons [] name value key
  | cons head rest ih =>
    obtain ⟨first, old⟩ := head
    rw [put]
    split
    · next replaced =>
      rw [lookup_cons, lookup_cons, replaced]
      split <;> rfl
    · next kept =>
      rw [lookup_cons, lookup_cons, ih]
      by_cases same : key = first
      · rw [if_pos same, if_neg (same ▸ kept), if_pos same]
      · rw [if_neg same, if_neg same]

theorem lookup_eq_none_iff : entries.lookup name = none ↔ name ∉ entries.map Prod.fst := by
  induction entries with
  | nil => simp
  | cons head rest ih =>
    obtain ⟨first, value⟩ := head
    rw [lookup_cons, List.map_cons, List.mem_cons]
    by_cases same : name = first
    · simp [same]
    · rw [if_neg same, ih, not_or]
      exact (and_iff_right same).symm

theorem names_put (entries : List (String × α)) (name : String) (value : α) :
    (put entries name value).map Prod.fst =
      if name ∈ entries.map Prod.fst then entries.map Prod.fst
      else entries.map Prod.fst ++ [name] := by
  induction entries with
  | nil => simp [put]
  | cons head rest ih =>
    obtain ⟨key, old⟩ := head
    by_cases same : key = name
    · simp [put, same]
    · rw [put, if_neg same, List.map_cons, ih]
      split <;> simp_all [eq_comm]

theorem nodup_put (nodup : (entries.map Prod.fst).Nodup) (name : String) (value : α) :
    ((put entries name value).map Prod.fst).Nodup := by
  rw [names_put]
  split
  · exact nodup
  · next new =>
    refine List.nodup_append.mpr ⟨nodup, by simp, ?_⟩
    intro other member last single same
    exact new (List.mem_singleton.mp single ▸ same ▸ member)

/-- A name that is still free comes last. -/
theorem put_of_free (free : entries.lookup name = none) (value : α) :
    put entries name value = entries ++ [(name, value)] := by
  induction entries with
  | nil => rfl
  | cons head rest ih =>
    obtain ⟨key, old⟩ := head
    rw [lookup_cons] at free
    by_cases same : name = key
    · rw [if_pos same] at free
      contradiction
    · rw [if_neg same] at free
      rw [put, if_neg (Ne.symm same), ih free, List.cons_append]

end AggregateStage.Named
