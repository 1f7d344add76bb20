/-!
# The order of names

Names are listed by their UTF-8 bytes. The order is stated on the bytes themselves, so that what a
listing promises does not rest on how characters compare.
-/

namespace ClientSynthesis.Text

/-- The UTF-8 bytes of a text. -/
def utf8Bytes (s : String) : List UInt8 := s.toUTF8.data.toList

/-- The first text comes strictly before the second in byte order. -/
def Before (a b : String) : Prop := utf8Bytes a < utf8Bytes b

instance (a b : String) : Decidable (Before a b) :=
  inferInstanceAs (Decidable (utf8Bytes a < utf8Bytes b))

/-! ### A strict linear order -/

theorem utf8Bytes_injective {a b : String} (h : utf8Bytes a = utf8Bytes b) : a = b := by
  have hdata : a.toUTF8.data = b.toUTF8.data := Array.toList_inj.1 h
  have hbytes : a.toUTF8 = b.toUTF8 := by
    cases ha : a.toUTF8; cases hb : b.toUTF8
    simp_all
  exact String.toByteArray_inj.1 hbytes

theorem Before.irrefl (a : String) : ¬ Before a a := List.lt_irrefl _

theorem Before.ne {a b : String} (h : Before a b) : a ≠ b := fun heq =>
  Before.irrefl b (heq ▸ h)

theorem Before.trans {a b c : String} (hab : Before a b) (hbc : Before b c) : Before a c :=
  List.lt_trans hab hbc

theorem Before.trichotomy (a b : String) : Before a b ∨ a = b ∨ Before b a := by
  by_cases hab : utf8Bytes a < utf8Bytes b
  · exact .inl hab
  · by_cases hba : utf8Bytes b < utf8Bytes a
    · exact .inr (.inr hba)
    · exact .inr (.inl (utf8Bytes_injective (List.le_antisymm (List.not_lt.1 hba)
        (List.not_lt.1 hab))))

end ClientSynthesis.Text
