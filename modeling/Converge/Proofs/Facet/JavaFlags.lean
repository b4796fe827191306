import Converge.Proofs.Facet.FlagTable

/-!
# Memory sizes that the Java machine reads

The flags are words without blanks, so the sizes are found again in the text that they are joined to
(`JavaFlags.valuesOf_render`). They are readable for every limit that is not read as infinite, and
without one: `JavaFlags.readable_iff`.
-/

namespace Converge

namespace JavaFlags

/-- A text gives a flag once, with a whole number of megabytes. -/
def Sets (text flag : String) (count : ℕ) : Prop :=
  ∃ size, valuesOf flag text = [size] ∧ IsMegabytes size count

/-- The machine reads the sizes of a text, and it can start with them. -/
structure Readable (text : String) (heap direct : ℕ) : Prop where
  initial_heap : Sets text "-Xms" heap
  greatest_heap : Sets text "-Xmx" heap
  direct_memory : Sets text "-XX:MaxDirectMemorySize=" direct
  usable : 2 ≤ heap
  within : heap ≤ direct

/-- Each size is found in the text once. -/
theorem valuesOf_render (limit : Option String) (randomPassword : Bool) :
    valuesOf "-Xms" (render limit randomPassword) = [(MemorySizes.ofLimit limit).heap.toList] ∧
      valuesOf "-Xmx" (render limit randomPassword) = [(MemorySizes.ofLimit limit).heap.toList] ∧
      valuesOf "-XX:MaxDirectMemorySize=" (render limit randomPassword) =
        [(MemorySizes.ofLimit limit).direct.toList] := by
  have values := values_render limit randomPassword
  simp only [entries_table, List.forall_mem_cons] at values
  obtain ⟨_, _, direct, initial, greatest, _⟩ := values
  exact ⟨initial, greatest, direct⟩

/-- The sizes of an infinite limit are not numbers. -/
theorem unreadable_of_infinite {limit : Option String}
    (infinite : limit.bind Quantity.parse? = some (.infinite false)) (randomPassword : Bool) :
    ¬ ∃ heap direct, Readable (render limit randomPassword) heap direct := by
  rintro ⟨heap, direct, readable⟩
  obtain ⟨size, found, digits, numeral, _, rfl⟩ := readable.initial_heap
  obtain ⟨initial, _, _⟩ := valuesOf_render limit randomPassword
  have sizes : MemorySizes.ofLimit limit = ⟨"infm", "infm"⟩ := by
    rcases MemorySizes.ofLimit_cases limit with ⟨finite, _⟩ | ⟨_, sizes⟩
    · exact absurd (finite _ infinite) Bool.false_ne_true
    · exact sizes
  rw [initial, sizes] at found
  -- What stands in front of the last letter is no numeral.
  have word : digits ++ ['m'] = ['i', 'n', 'f'] ++ ['m'] := (List.cons.inj found).1.symm
  rw [List.append_cancel_right word] at numeral
  exact absurd (numeral.2 'i' List.mem_cons_self) (by decide)

/-- The sizes are readable exactly if no infinite amount is read of the limit. -/
theorem readable_iff (limit : Option String) (randomPassword : Bool) :
    (∃ heap direct, Readable (render limit randomPassword) heap direct) ↔
      ∀ amount, limit.bind Quantity.parse? = some amount → amount.isFinite = true := by
  rcases MemorySizes.ofLimit_cases limit with ⟨finite, usable⟩ | ⟨infinite, _⟩
  · refine iff_of_true ?_ finite
    obtain ⟨initial, greatest, memory⟩ := valuesOf_render limit randomPassword
    generalize MemorySizes.ofLimit limit = sizes at usable initial greatest memory
    cases usable with
    | @of heap direct usable within =>
      exact ⟨heap, direct,
        { initial_heap := ⟨_, initial, isMegabytes_toString heap⟩
          greatest_heap := ⟨_, greatest, isMegabytes_toString heap⟩
          direct_memory := ⟨_, memory, isMegabytes_toString direct⟩
          usable
          within }⟩
  · refine iff_of_false (unreadable_of_infinite infinite randomPassword) fun finite => ?_
    exact Bool.false_ne_true (finite _ infinite)

/-- An ordinary limit is finite. -/
theorem readable_of_four_gibibytes :
    ∃ heap direct, Readable (render (some "4Gi") true) heap direct := by
  have read : (some "4Gi").bind Quantity.parse? =
      some (.finite false 4503599627370496 (-20)) := by decide +kernel
  refine (readable_iff (some "4Gi") true).2 ?_
  rw [read]
  rintro _ ⟨⟩
  rfl

/-- A limit whose number is finite, but not with its suffix. -/
theorem boundless_limit_unreadable :
    render (some "1e308Ei") false =
        "-Djava.util.prefs.userRoot=/nexus-data/javaprefs -Dnexus.security.randompassword=false " ++
          "-XX:MaxDirectMemorySize=infm -Xmsinfm -Xmxinfm" ∧
      ¬ ∃ heap direct, Readable (render (some "1e308Ei") false) heap direct :=
  ⟨by decide +kernel, unreadable_of_infinite (by decide +kernel) false⟩

end JavaFlags

end Converge
