import AgentOps.Lib.CodeUnits
import AgentOps.Lib.Text
import Mathlib.Tactic.IntervalCases

namespace AgentOps.Lib

/-! # Bytes behind their length -/

def frame (bytes : List UInt8) : List UInt8 := utf8 (Nat.toDigits 10 bytes.length) ++ (utf8 [':'] ++ bytes)

theorem colon_utf8 : utf8 [':'] = [58] := by decide

theorem utf8_digit {c : Char} (digit : isDigit c = true) : ∀ byte ∈ String.utf8EncodeChar c, byte ≠ 58 := by
  have known : c = Char.ofNat c.toNat := (Char.ofNat_toNat c).symm
  simp only [isDigit, Bool.and_eq_true, decide_eq_true_eq, Char.le_def, UInt32.le_iff_toNat_le] at digit
  change 48 ≤ c.toNat ∧ c.toNat ≤ 57 at digit
  generalize c.toNat = n at digit known
  obtain ⟨low, high⟩ := digit
  subst known
  have apart : (String.utf8EncodeChar (Char.ofNat n)).all (· != 58) = true := by interval_cases n <;> decide
  intro byte member
  exact bne_iff_ne.mp (List.all_eq_true.mp apart byte member)

theorem utf8_digits (n : Nat) : ∀ byte ∈ utf8 (Nat.toDigits 10 n), (byte != 58) = true := by
  intro byte member
  obtain ⟨c, digit, member⟩ := List.mem_flatMap.mp member
  simpa using utf8_digit (isDigit_toDigits digit) byte member

variable {bytes bytes' rest rest' : List UInt8}

theorem takeWhile_frame : (frame bytes ++ rest).takeWhile (· != 58) = utf8 (Nat.toDigits 10 bytes.length) := by
  rw [frame, colon_utf8, List.append_assoc, List.takeWhile_append_of_pos (utf8_digits _)]
  simp

theorem dropWhile_frame : (frame bytes ++ rest).dropWhile (· != 58) = 58 :: (bytes ++ rest) := by
  rw [frame, colon_utf8, List.append_assoc, List.dropWhile_append_of_pos (utf8_digits _)]
  simp

theorem frame_append_inj (same : frame bytes ++ rest = frame bytes' ++ rest') : bytes = bytes' ∧ rest = rest' := by
  have digits := congrArg (List.takeWhile (· != 58)) same
  have following := congrArg (List.dropWhile (· != 58)) same
  rw [takeWhile_frame, takeWhile_frame] at digits
  rw [dropWhile_frame, dropWhile_frame, List.cons.injEq] at following
  have lengths : bytes.length = bytes'.length := by
    have values := congrArg digitsValue (utf8_injective digits)
    rwa [digitsValue_toDigits, digitsValue_toDigits] at values
  exact List.append_inj following.2 lengths

theorem frames_append_inj {fields fields' : List (List UInt8)} (count : fields.length = fields'.length)
    (same : fields.flatMap frame ++ rest = fields'.flatMap frame ++ rest') : fields = fields' ∧ rest = rest' := by
  induction fields generalizing fields' with
  | nil =>
    cases fields' with
    | nil => exact ⟨rfl, same⟩
    | cons => cases count
  | cons field fields ih =>
    cases fields' with
    | nil => cases count
    | cons field' fields' =>
      rw [List.flatMap_cons, List.flatMap_cons, List.append_assoc, List.append_assoc] at same
      obtain ⟨rfl, following⟩ := frame_append_inj same
      obtain ⟨rfl, rest⟩ := ih (Nat.succ.inj count) following
      exact ⟨rfl, rest⟩

end AgentOps.Lib
