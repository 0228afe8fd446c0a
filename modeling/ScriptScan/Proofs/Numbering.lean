import Mathlib.Data.List.DropRight
import ScriptScan.Diagnostic.Code

/-!
# ScriptScan.Proofs.Numbering

A code found again in the text that shows it.

The text holds no mark between the family and the number.  What parts them is that the
number is the longest run of digits at the end, if the family does not end in a digit.

* `ofDigitChars_padded` — the padded number, read as a decimal one, is the number;
* `rdropWhile_text`, `rtakeWhile_text` — where the text of a code parts;
* `text_identifies_code` — so no other code has the same text.
-/

namespace ScriptScan.Code

/-- The family of a code ends in no decimal digit, so that it does not run on into the
number behind it. -/
def EndsBeforeDigits (code : Code) : Prop :=
  ∀ c, code.family.toList.getLast? = some c → c.isDigit = false

/-! ## padded numbers -/

/-- Only digits are written, be they of the number or put in front of it. -/
theorem isDigit_of_mem_padded {n : Nat} {c : Char} (h : c ∈ padded n) : c.isDigit = true := by
  rw [padded, List.leftpad, List.mem_append] at h
  rcases h with hzero | hdigit
  · rw [List.eq_of_mem_replicate hzero]
    rfl
  · exact Nat.isDigit_of_mem_toDigits (by decide) (by decide) hdigit

theorem four_le_length_padded (n : Nat) : 4 ≤ (padded n).length := by
  rw [padded, List.length_leftpad]
  exact Nat.le_max_left _ _

/-- The zeros in front change nothing about the number, on either side of the width up to
which there are any. -/
theorem ofDigitChars_padded (n : Nat) : Nat.ofDigitChars 10 (padded n) 0 = n := by
  rw [padded, List.leftpad, Nat.ofDigitChars_append, Nat.ofDigitChars_replicate_zero, Nat.mul_zero,
    Nat.ofDigitChars_ten_toDigits]

/-! ## the text of a code -/

variable {code : Code}

theorem toList_text (code : Code) :
    code.text.toList = code.family.toList ++ padded code.number := by
  rw [text, String.toList_append, String.toList_ofList]

/-- Without the digits at its end the text of a code is the family. -/
theorem rdropWhile_text (h : code.EndsBeforeDigits) :
    code.text.toList.rdropWhile Char.isDigit = code.family.toList := by
  have hdigits : ∀ c ∈ (padded code.number).reverse, c.isDigit = true := fun c hc =>
    isDigit_of_mem_padded (List.mem_reverse.1 hc)
  rw [toList_text, List.rdropWhile, List.reverse_append, List.dropWhile_append_of_pos hdigits]
  refine List.rdropWhile_eq_self_iff.2 fun hne => ?_
  rw [h _ (List.getLast?_eq_getLast_of_ne_nil hne)]
  exact Bool.false_ne_true

/-- The digits at the end of the text of a code are the padded number. -/
theorem rtakeWhile_text (h : code.EndsBeforeDigits) :
    code.text.toList.rtakeWhile Char.isDigit = padded code.number := by
  have hwhole : code.text.toList.rdropWhile Char.isDigit ++
      code.text.toList.rtakeWhile Char.isDigit = code.text.toList :=
    List.rdropWhile_append_rtakeWhile
  rw [rdropWhile_text h] at hwhole
  exact List.append_cancel_left (hwhole.trans (toList_text code))

/-- **Codes are identified by their texts**: the longest run of digits at the end of the text
is the number, in at least four digits, and the rest is the family.  So two codes whose
families end in no digit are the same if their texts are. -/
theorem text_identifies_code (code : Code) (h : code.EndsBeforeDigits) :
    code.text.toList.rtakeWhile Char.isDigit = padded code.number ∧
      4 ≤ (code.text.toList.rtakeWhile Char.isDigit).length ∧
      Nat.ofDigitChars 10 (code.text.toList.rtakeWhile Char.isDigit) 0 = code.number ∧
      ∀ other : Code, other.EndsBeforeDigits → other.text = code.text →
        other.family = code.family ∧ other.number = code.number := by
  rw [rtakeWhile_text h]
  refine ⟨rfl, four_le_length_padded _, ofDigitChars_padded _, fun other hother htext => ⟨?_, ?_⟩⟩
  · have hfamily := rdropWhile_text hother
    rw [htext, rdropWhile_text h] at hfamily
    exact String.toList_injective hfamily.symm
  · have hpadded := rtakeWhile_text hother
    rw [htext, rtakeWhile_text h] at hpadded
    have hnumber := congrArg (Nat.ofDigitChars 10 · 0) hpadded
    simp only [ofDigitChars_padded] at hnumber
    exact hnumber.symm

/-- A family with a digit inside, and a number that is too long to be padded. -/
theorem text_identifies_code_past_padding :
    EndsBeforeDigits ⟨"L2-", 10042⟩ ∧
      Code.text ⟨"L2-", 10042⟩ = "L2-10042" ∧
      "L2-10042".toList.rtakeWhile Char.isDigit = ['1', '0', '0', '4', '2'] ∧
      ∀ other : Code, other.EndsBeforeDigits → other.text = "L2-10042" →
        other.family = "L2-" ∧ other.number = 10042 := by
  have hfamily : EndsBeforeDigits ⟨"L2-", 10042⟩ := by
    intro c hc
    cases hc
    rfl
  have htext : Code.text ⟨"L2-", 10042⟩ = "L2-10042" := by decide +kernel
  obtain ⟨hdigits, -, -, hunique⟩ := text_identifies_code ⟨"L2-", 10042⟩ hfamily
  rw [htext] at hdigits hunique
  exact ⟨hfamily, htext, hdigits.trans (by decide), hunique⟩

-- a family that ends in a digit shares its text with another one
example : Code.text ⟨"E1", 2345⟩ = Code.text ⟨"E", 12345⟩ := by decide +kernel

end ScriptScan.Code
