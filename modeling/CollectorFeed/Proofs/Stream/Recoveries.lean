import CollectorFeed.Stream.Framer

/-!
# Counting recovery scans

A framer counts the scans that it begins, and a record says how many were needed in front of it.
The two agree: reading a record adds to the count what the record says (`next_recoveries`). A read
that fails adds what it began, which nobody is told.
-/

set_option autoImplicit false

namespace CollectorFeed

namespace Framer

theorem rescan_recoveries (framer : Framer) : framer.rescan.2.recoveries = framer.recoveries + 1 :=
  rfl

theorem acceptHeader_recoveries {skips count : Nat} {framer after : Framer} {header : RecordHeader}
    (accepted : framer.acceptHeader skips = (.ok (header, count), after)) :
    after.recoveries + skips = framer.recoveries + count := by
  fun_induction acceptHeader skips framer with
  | case1 => simp at accepted
  | case2 skips framer header' source read _ =>
    obtain ⟨found, rfl⟩ := Prod.mk.inj accepted
    cases found
    rfl
  | case3 => simp at accepted
  | case4 skips framer header' source read _ length next scan ih =>
    -- a refused header costs one scan, which is counted here and in front of the next header
    have counted := rescan_recoveries { framer with source := source }
    rw [scan] at counted
    have rest := ih accepted
    dsimp only at counted
    omega

/-- A failed read may have begun scans too. -/
theorem recoveries_le_acceptHeader (skips : Nat) (framer : Framer) :
    framer.recoveries ≤ (framer.acceptHeader skips).2.recoveries := by
  fun_induction acceptHeader skips framer with
  | case1 => exact Nat.le_refl _
  | case2 => exact Nat.le_refl _
  | case3 skips framer header source read _ e next scan =>
    have counted := rescan_recoveries { framer with source := source }
    rw [scan] at counted
    exact Nat.le_of_lt (Nat.lt_of_lt_of_eq (Nat.lt_succ_self _) counted.symm)
  | case4 skips framer header source read _ length next scan ih =>
    have counted := rescan_recoveries { framer with source := source }
    rw [scan] at counted
    dsimp only at counted
    omega

theorem recoveries_le_next (framer : Framer) : framer.recoveries ≤ framer.next.2.recoveries := by
  have begun := recoveries_le_acceptHeader 0 framer
  unfold next
  rcases accepted : framer.acceptHeader 0 with ⟨_ | ⟨header, skips⟩, after⟩
  · rw [accepted] at begun
    exact begun
  · rw [accepted] at begun
    dsimp only
    split <;> exact begun

/-- Reading a record adds the scans that were needed in front of it to the count. -/
theorem next_recoveries {framer after : Framer} {record : FramedRecord}
    (read : framer.next = (.ok record, after)) :
    after.recoveries = framer.recoveries + record.recoveries := by
  unfold next at read
  split at read
  · simp at read
  · next header count accepted =>
    have counted := acceptHeader_recoveries accepted
    split at read
    · simp at read
    · obtain ⟨found, rfl⟩ := Prod.mk.inj read
      cases found
      exact counted

end Framer

end CollectorFeed
