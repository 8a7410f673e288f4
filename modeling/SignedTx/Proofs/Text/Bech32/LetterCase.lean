import SignedTx.Proofs.Outcome
import SignedTx.Proofs.Text.Bech32
import SignedTx.Proofs.Text.Hex

/-!
# One letter case

The characters of a text are looked at from the left, first those of the human-readable part and
then those after the separator, and the case seen so far is all that is kept. What is refused is a
small letter and a capital in one text, wherever they stand.
-/

set_option autoImplicit false

namespace SignedTx.Bech32

/-! ## Letters -/

theorem is_lower_of_upper {c : Char} (capital : isUpper c = true) : isLower c = false := by
  rw [isUpper, Bool.and_eq_true, decide_eq_true_eq, decide_eq_true_eq] at capital
  rw [isLower, Bool.and_eq_false_iff, decide_eq_false_iff_not]
  exact .inl fun small => absurd (Char.le_trans small capital.2) (by decide)

theorem ascii_of_upper {c : Char} (capital : isUpper c = true) : c.toNat < 128 := by
  rw [isUpper, Bool.and_eq_true, decide_eq_true_eq, decide_eq_true_eq] at capital
  have last : c.toNat ≤ 90 := capital.2
  omega

theorem to_lower_of_small {c : Char} (small : isUpper c = false) : toLower c = c := by
  rw [toLower, small, if_neg Bool.false_ne_true]

/-- Small forms differ for capitals only, and these are ASCII. -/
theorem of_capitals_and_others (holds : Char → Prop) (each : ∀ n < 128, holds (Char.ofNat n))
    (others : ∀ c, isUpper c = false → holds c) (c : Char) : holds c := by
  by_cases capital : isUpper c = true
  · exact of_each_ascii holds each (ascii_of_upper capital)
  · exact others c (Bool.not_eq_true _ ▸ capital)

theorem is_upper_to_lower (c : Char) : isUpper (toLower c) = false := by
  revert c
  apply of_capitals_and_others
  · decide
  · intro c small
    rw [to_lower_of_small small, small]

/-- A character is visible ASCII exactly if its small form is. -/
theorem visible_to_lower (c : Char) :
    33 ≤ (toLower c).toNat ∧ (toLower c).toNat ≤ 126 ↔ 33 ≤ c.toNat ∧ c.toNat ≤ 126 := by
  revert c
  apply of_capitals_and_others
  · decide
  · intro c small
    rw [to_lower_of_small small]

theorem ascii_of_to_lower (c : Char) : (toLower c).toNat < 128 → c.toNat < 128 := by
  revert c
  apply of_capitals_and_others
  · decide
  · intro c small
    rw [to_lower_of_small small]
    exact id

/-! ## The case seen so far -/

/-- A text can follow what was seen: no capital if that was a small letter, and no small letter if
it was a capital. -/
def LetterCase.Admits (seen : LetterCase) (text : List Char) : Prop :=
  seen ≠ .upper ∧ (∀ c ∈ text, isUpper c = false) ∨
    seen ≠ .lower ∧ ∀ c ∈ text, isLower c = false

theorem admits_nil (seen : LetterCase) : seen.Admits [] := by
  cases seen <;> simp [LetterCase.Admits]

/-- The case after a character admits what the case before admits after that character. -/
theorem admits_cons_iff {seen : LetterCase} {c : Char} {rest : List Char} :
    seen.Admits (c :: rest) ↔ ∃ next, seen.meet c = .ok next ∧ next.Admits rest := by
  cases capital : isUpper c with
  | true =>
      have no_small := is_lower_of_upper capital
      cases seen <;> simp [LetterCase.Admits, LetterCase.meet, capital, no_small]
  | false =>
      cases small : isLower c <;>
        cases seen <;> simp [LetterCase.Admits, LetterCase.meet, capital, small]

/-- The octets of the human-readable part are the characters themselves, so a text of which they are
the beginning is admitted from the same case on. -/
theorem case_of_admits_iff {seen : LetterCase} {bytes : List UInt8} {rest : List Char} :
    (∃ found, caseOf seen bytes = .ok found ∧ found.Admits rest) ↔
      (∀ byte ∈ bytes, 33 ≤ byte ∧ byte ≤ 126) ∧
        seen.Admits (bytes.map (fun byte => Char.ofNat byte.toNat) ++ rest) := by
  induction bytes generalizing seen with
  | nil => simp [caseOf]
  | cons byte bytes induction =>
      rw [List.map_cons, List.cons_append, admits_cons_iff, List.forall_mem_cons, caseOf]
      by_cases visible : 33 ≤ byte ∧ byte ≤ 126
      · have shown : ¬ (byte < 33 ∨ 126 < byte) := by
          rw [not_or, UInt8.not_lt, UInt8.not_lt]
          exact visible
        rw [if_neg shown]
        cases met : seen.meet (Char.ofNat byte.toNat) with
        | error e => simp
        | ok next => simp [visible, induction]
      · have hidden : byte < 33 ∨ 126 < byte := by
          rwa [← UInt8.not_le, ← UInt8.not_le, ← not_and_or]
        simp [hidden, visible]

/-- Without capitals there is only one case, whatever small letters there are. -/
theorem case_of_no_upper (bytes : List UInt8)
    (visible : ∀ byte ∈ bytes, 33 ≤ byte ∧ byte ≤ 126)
    (small : ∀ byte ∈ bytes, isUpper (Char.ofNat byte.toNat) = false) :
    ∃ found, caseOf .unseen bytes = .ok found := by
  have unseen : LetterCase.unseen ≠ .upper := nofun
  have no_capital :
      ∀ c ∈ bytes.map (fun byte => Char.ofNat byte.toNat) ++ [], isUpper c = false := by
    simpa using small
  obtain ⟨found, read, -⟩ := case_of_admits_iff.2 ⟨visible, .inl ⟨unseen, no_capital⟩⟩
  exact ⟨found, read⟩

/-! ## Symbols -/

theorem read_symbols_cons_eq_ok {seen : LetterCase} {c : Char} {rest : List Char}
    {symbols : List Symbol} : readSymbols seen (c :: rest) = .ok symbols ↔
      ∃ next symbol others, seen.meet c = .ok next ∧ toLower c = symbolChar symbol ∧
        readSymbols next rest = .ok others ∧ symbols = symbol :: others := by
  rw [readSymbols, Outcome.refusal_eq_ok_iff]
  constructor
  · rintro ⟨-, read⟩
    cases met : seen.meet c with
    | error e => simp [met] at read
    | ok next =>
        cases found : charset.idxOf? (toLower c) with
        | none => simp [met, found] at read
        | some value =>
            simp only [met, found, Outcome.map_eq_ok_iff] at read
            obtain ⟨others, later, rfl⟩ := read
            exact ⟨next, _, others, rfl, (symbol_char_of_index found).symm, later, rfl⟩
  · rintro ⟨next, symbol, others, met, char, later, rfl⟩
    have ascii : ¬ 127 < c.toNat := by
      have small := (symbol_char_cases symbol).2.2
      rw [← char] at small
      have here := ascii_of_to_lower c (by omega)
      omega
    have value : BitVec.ofNat 5 symbol.toNat = symbol := by
      rw [BitVec.ofNat_toNat, BitVec.setWidth_eq]
    refine ⟨ascii, ?_⟩
    simp only [met, char, index_of_symbol_char, later, value]
    rfl

/-- The symbols after the separator are read from their characters, in the case seen so far. -/
theorem read_symbols_eq_ok_iff {seen : LetterCase} {text : List Char} {symbols : List Symbol} :
    readSymbols seen text = .ok symbols ↔
      seen.Admits text ∧ text.map toLower = symbols.map symbolChar := by
  induction text generalizing seen symbols with
  | nil =>
      constructor
      · intro read
        cases read
        exact ⟨admits_nil seen, rfl⟩
      · rintro ⟨-, same⟩
        rw [List.map_eq_nil_iff.mp same.symm]
        rfl
  | cons c rest induction =>
      rw [read_symbols_cons_eq_ok, admits_cons_iff]
      constructor
      · rintro ⟨next, symbol, others, met, char, later, rfl⟩
        obtain ⟨admits, same⟩ := induction.mp later
        refine ⟨⟨next, met, admits⟩, ?_⟩
        rw [List.map_cons, List.map_cons, char, same]
      · rintro ⟨⟨next, met, admits⟩, same⟩
        cases symbols with
        | nil => cases same
        | cons symbol others =>
            obtain ⟨char, same⟩ := List.cons.inj same
            exact ⟨next, symbol, others, met, char, induction.mpr ⟨admits, same⟩, rfl⟩

/-! ## Human-readable parts -/

/-- A human-readable part that can be used: 1 to 83 characters, all visible ASCII. -/
structure IsVisible (hrp : String) : Prop where
  not_empty : 1 ≤ hrp.length
  short : hrp.length ≤ 83
  visible : ∀ c ∈ hrp.toList, 33 ≤ c.toNat ∧ c.toNat ≤ 126

-- Over the characters of the part, not over all characters.
instance decidableVisible (hrp : String) :
    Decidable (∀ c ∈ hrp.toList, 33 ≤ c.toNat ∧ c.toNat ≤ 126) :=
  List.decidableBAll _ hrp.toList

theorem is_visible_iff {hrp : String} :
    IsVisible hrp ↔
      (1 ≤ hrp.length ∧ hrp.length ≤ 83) ∧ ∀ c ∈ hrp.toList, 33 ≤ c.toNat ∧ c.toNat ≤ 126 :=
  ⟨fun visible => ⟨⟨visible.not_empty, visible.short⟩, visible.visible⟩,
    fun ⟨⟨not_empty, short⟩, visible⟩ => ⟨not_empty, short, visible⟩⟩

instance (hrp : String) : Decidable (IsVisible hrp) := decidable_of_iff _ is_visible_iff.symm

theorem octet_of_visible {c : Char} (visible : c.toNat ≤ 126) :
    (UInt8.ofNat c.toNat).toNat = c.toNat := by
  rw [UInt8.toNat_ofNat']
  omega

theorem utf8_of_visible {text : String}
    (visible : ∀ c ∈ text.toList, 33 ≤ c.toNat ∧ c.toNat ≤ 126) :
    utf8 text = text.toList.map fun c => UInt8.ofNat c.toNat := by
  have ascii : ∀ c ∈ text.toList, c.toNat < 128 := by
    intro c listed
    have bounded := (visible c listed).2
    omega
  rw [← utf8_of_ascii ascii, String.ofList_toList]

theorem chars_of_visible {text : String}
    (visible : ∀ c ∈ text.toList, 33 ≤ c.toNat ∧ c.toNat ≤ 126) :
    (utf8 text).map (fun byte => Char.ofNat byte.toNat) = text.toList := by
  rw [utf8_of_visible visible, List.map_map]
  refine (List.map_congr_left fun c listed => ?_).trans (List.map_id _)
  rw [Function.comp_apply, octet_of_visible (visible c listed).2, Char.ofNat_toNat, id_eq]

/-- An octet below 128 is a character of its own, so visible octets are visible characters. -/
theorem visible_utf8_iff {text : String} :
    (∀ byte ∈ utf8 text, 33 ≤ byte ∧ byte ≤ 126) ↔
      ∀ c ∈ text.toList, 33 ≤ c.toNat ∧ c.toNat ≤ 126 := by
  constructor
  · intro visible c listed
    have some_octet : 0 < (String.utf8EncodeChar c).length := by
      rw [String.length_utf8EncodeChar]
      exact c.utf8Size_pos
    obtain ⟨byte, inside⟩ := List.exists_mem_of_length_pos some_octet
    have octet : byte ∈ utf8 text := by
      rw [← @String.ofList_toList text, utf8_of_list]
      exact List.mem_flatMap.mpr ⟨c, listed, inside⟩
    obtain ⟨lower, upper⟩ := visible byte octet
    rw [UInt8.le_iff_toNat_le] at lower upper
    rw [← char_of_small_octet inside (Nat.lt_of_le_of_lt upper (by decide))]
    exact ⟨lower, upper⟩
  · intro visible byte listed
    rw [utf8_of_visible visible] at listed
    obtain ⟨c, inside, rfl⟩ := List.mem_map.mp listed
    rw [UInt8.le_iff_toNat_le, UInt8.le_iff_toNat_le, octet_of_visible (visible c inside).2]
    exact visible c inside

theorem hrp_count_iff {hrp : String} (visible : ∀ c ∈ hrp.toList, 33 ≤ c.toNat ∧ c.toNat ≤ 126) :
    ((utf8 hrp).isEmpty ∨ 83 < (utf8 hrp).length) ↔ ¬ (1 ≤ hrp.length ∧ hrp.length ≤ 83) := by
  have length : (utf8 hrp).length = hrp.length := by
    rw [← String.length_toList, ← chars_of_visible visible, List.length_map]
  rw [List.isEmpty_iff_length_eq_zero, length]
  omega

/-- A human-readable part is accepted in a case that admits the rest of a text exactly if it is
visible and the whole text is in one case. -/
theorem check_hrp_admits_iff {hrp : String} {rest : List Char} :
    (∃ found, checkHrp hrp = .ok found ∧ found.Admits rest) ↔
      IsVisible hrp ∧ LetterCase.unseen.Admits (hrp.toList ++ rest) := by
  constructor
  · rintro ⟨found, usable, admits⟩
    obtain ⟨count, usable⟩ := Outcome.refusal_eq_ok_iff.1 usable
    obtain ⟨octets, whole⟩ := case_of_admits_iff.1 ⟨found, usable, admits⟩
    have visible := visible_utf8_iff.1 octets
    rw [hrp_count_iff visible, not_not] at count
    rw [chars_of_visible visible] at whole
    exact ⟨is_visible_iff.2 ⟨count, visible⟩, whole⟩
  · rintro ⟨usable, whole⟩
    obtain ⟨length, visible⟩ := is_visible_iff.1 usable
    have count : ¬ ((utf8 hrp).isEmpty ∨ 83 < (utf8 hrp).length) := by
      rwa [hrp_count_iff visible, not_not]
    rw [← chars_of_visible visible] at whole
    simp only [checkHrp, if_neg count]
    exact case_of_admits_iff.2 ⟨visible_utf8_iff.2 visible, whole⟩

end SignedTx.Bech32
