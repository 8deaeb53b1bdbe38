/-!
# ASCII letters in lower case

`Char.toLower` changes the capital letters and nothing else. What it gives is no capital letter
(`isUpper_toLower`), and is no small one either unless the character was a letter (`eq_of_toLower`).
-/
namespace RestKit.Text

variable {c d : Char}

theorem isUpper_iff : c.isUpper = true ↔ 65 ≤ c.val.toNat ∧ c.val.toNat ≤ 90 := by
  change decide (c.val ≥ 'A'.val ∧ c.val ≤ 'Z'.val) = true ↔ _
  rw [decide_eq_true_eq]
  exact Iff.rfl

theorem isLower_iff : c.isLower = true ↔ 97 ≤ c.val.toNat ∧ c.val.toNat ≤ 122 := by
  change (decide (c.val ≥ 'a'.val) && decide (c.val ≤ 'z'.val)) = true ↔ _
  rw [Bool.and_eq_true, decide_eq_true_eq, decide_eq_true_eq]
  exact Iff.rfl

/-- What is no letter is in lower case where it was before. -/
theorem eq_of_toLower (hd : d.isLower = false) (h : c.toLower = d) : c = d := by
  unfold Char.toLower at h
  split at h
  · rename_i hupper
    have hlow : 65 ≤ c.val.toNat ∧ c.val.toNat ≤ 90 := hupper
    have hval : (c.val.toNat + 32) % 4294967296 = d.val.toNat := congrArg (fun c => c.val.toNat) h
    have hlower : d.isLower = true := isLower_iff.2 ⟨by omega, by omega⟩
    rw [hd] at hlower
    cases hlower
  · exact h

theorem isUpper_toLower (c : Char) : c.toLower.isUpper = false := by
  rw [Bool.eq_false_iff]
  intro hupper
  unfold Char.toLower at hupper
  split at hupper
  · rename_i h
    have hlow : 65 ≤ c.val.toNat ∧ c.val.toNat ≤ 90 := h
    have hval : 65 ≤ (c.val.toNat + 32) % 4294967296 ∧ (c.val.toNat + 32) % 4294967296 ≤ 90 :=
      isUpper_iff.1 hupper
    omega
  · rename_i h
    exact h (isUpper_iff.1 hupper)

theorem toLower_of_not_upper (h : c.isUpper = false) : c.toLower = c := by
  unfold Char.toLower
  split
  · rename_i hupper
    rw [isUpper_iff.2 hupper] at h
    cases h
  · rfl

end RestKit.Text
