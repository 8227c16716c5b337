import Mathlib.Data.List.TakeWhile
import RepoCatalog.Encoding

/-!
# Which texts have an encoding

A text has an encoding exactly if it holds no surrogate, and then its bytes are those of UTF-8.
-/

namespace RepoCatalog.Encoding

variable {encoding : Encoding} {text : List Char}

theorem stray?_eq_none_iff :
    encoding.stray? text = none ↔ ∀ c ∈ text, encoding.isLone c = false := by
  unfold stray?
  split
  · rename_i sound
    simpa [List.dropWhile_eq_nil_iff] using sound
  · rename_i c rest lone
    refine iff_of_false nofun fun sound => ?_
    have none : text.dropWhile (!encoding.isLone ·) = [] :=
      List.dropWhile_eq_nil_iff.mpr fun c member => by simp [sound c member]
    rw [none] at lone
    cases lone

/-- A text that is encoded holds no surrogate; its bytes are those of UTF-8. -/
theorem encode_eq_ok_iff {text : String} {content : List UInt8} :
    encoding.encode text = .ok content ↔
      encoding.stray? text.toList = none ∧ content = Text.encodeUtf8 text.toList := by
  unfold encode
  cases encoding.stray? text.toList <;> simp [eq_comm]

/-- A text that is not encoded holds a surrogate, which the failure shows. -/
theorem exists_lone_of_encode {text : String} {failure : Failure}
    (failed : encoding.encode text = .error failure) :
    ∃ c ∈ text.toList, encoding.isLone c = true ∧
      ∃ position count, failure = .notEncodable ⟨position, c.toNat - 0x800, count⟩ := by
  unfold encode stray? at failed
  cases found : text.toList.dropWhile (!encoding.isLone ·) with
  | nil =>
      rw [found] at failed
      cases failed
  | cons c rest =>
      rw [found] at failed
      cases failed
      have lone : (!encoding.isLone c) = false := by
        simpa [found] using List.head_dropWhile_not (!encoding.isLone ·) (l := text.toList)
          (by simp [found])
      refine ⟨c, (List.dropWhile_suffix _).subset (found ▸ List.mem_cons_self), ?_, _, _, rfl⟩
      simpa using lone

end RepoCatalog.Encoding
