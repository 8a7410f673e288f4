import SignedTx.Crypto.Sha256
import SignedTx.Proofs.Text.Base58

/-!
# Texts of ids

An id is read from its own text and from no other. A text that octets have in base 58 is refused for
their count or else for their checksum, so a one more or less at its beginning is noticed as an octet
more or less. The hash that makes the checksum may be any function.
-/

set_option autoImplicit false

namespace SignedTx.Identifier

variable {hash : HashFunction}

/-- The octets that an id's text has: the id and its checksum. -/
def checked (hash : HashFunction) (id : Identifier) : List UInt8 :=
  id.toList ++ checksum hash id.toList

theorem length_checksum (hash : HashFunction) (body : List UInt8) :
    (checksum hash body).length = 4 := by
  rw [checksum, List.length_drop, Octets.length_toList]

theorem length_checked (hash : HashFunction) (id : Identifier) : (checked hash id).length = 36 := by
  rw [checked, List.length_append, length_checksum, Octets.length_toList]

theorem of_text_of_long {octets : List UInt8} (other : octets.length ≠ 36) :
    ofText hash (Base58.encode octets) =
      .error (.invalidCb58 s!"decoded {octets.length} bytes, expected 36") := by
  simp only [ofText, Base58.decode_encode, ne_eq, other, not_false_eq_true, if_true]

theorem of_text_of_unchecked {octets : List UInt8} (count : octets.length = 36)
    (other : octets.drop 32 ≠ checksum hash (octets.take 32)) :
    ofText hash (Base58.encode octets) = .error (.invalidCb58 "checksum mismatch") := by
  simp only [ofText, Base58.decode_encode, ne_eq, count, not_true_eq_false, if_false, other,
    not_false_eq_true, if_true]

theorem of_text_to_text (hash : HashFunction) (id : Identifier) :
    ofText hash (id.toText hash) = .ok id := by
  have count : (id.toList ++ checksum hash id.toList).length = 36 := length_checked hash id
  have body : (id.toList ++ checksum hash id.toList).take 32 = id.toList :=
    List.take_left' id.length_toList
  have rest : (id.toList ++ checksum hash id.toList).drop 32 = checksum hash id.toList :=
    List.drop_left' id.length_toList
  have taken : ofList? id.toList = .ok id := of_list_eq_ok_iff.2 rfl
  simp only [ofText, toText, Base58.decode_encode, count, body, rest, ne_eq, not_true_eq_false,
    if_false, taken]

theorem of_text_eq_ok_iff {text : String} {id : Identifier} :
    ofText hash text = .ok id ↔ text = id.toText hash := by
  constructor
  · intro read
    exact (to_text_of_text read).symm
  · intro same
    rw [same, of_text_to_text]

/-- What is read has 32 octets once its length is checked, so all faults are of the text. -/
theorem invalid_of_error {text : String} {e : FormatError} (refused : ofText hash text = .error e) :
    ∃ reason, e = .invalidCb58 reason := by
  unfold ofText at refused
  split at refused
  · cases refused
    exact ⟨_, rfl⟩
  rename_i octets _
  rcases Outcome.refusal_eq_error_iff.1 refused with ⟨-, rfl⟩ | ⟨count, later⟩
  · exact ⟨_, rfl⟩
  rcases Outcome.refusal_eq_error_iff.1 later with ⟨-, rfl⟩ | ⟨-, taken⟩
  · exact ⟨_, rfl⟩
  · have width : (octets.take 32).length = 32 := by rw [List.length_take, not_not.mp count]; rfl
    have whole : ofList? (octets.take 32) = .ok ⟨⟨octets.take 32, width⟩⟩ :=
      of_list_eq_ok_iff.2 rfl
    rw [whole] at taken
    cases taken

/-- Leading ones are taken from octets one by one. -/
theorem zeros_of_leading_ones {count : Nat} {octets : List UInt8} {rest : List Char}
    (text : (Base58.encode octets).toList = List.replicate count '1' ++ rest) :
    ∃ others, octets = List.replicate count 0 ++ others ∧
      (Base58.encode others).toList = rest := by
  induction count generalizing octets with
  | zero => exact ⟨octets, rfl, text⟩
  | succ count induction =>
      rw [List.replicate_succ, List.cons_append] at text
      obtain ⟨later, rfl, shorter⟩ := Base58.zero_of_leading_one text
      obtain ⟨others, rfl, same⟩ := induction shorter
      exact ⟨others, rfl, same⟩

theorem of_text_of_other_ones {id : Identifier} {count other : Nat} {rest : List Char}
    (text : (id.toText hash).toList = List.replicate count '1' ++ rest) (differs : other ≠ count) :
    ofText hash (String.ofList (List.replicate other '1' ++ rest)) =
      .error (.invalidCb58 s!"decoded {36 - count + other} bytes, expected 36") := by
  obtain ⟨others, split, same⟩ := zeros_of_leading_ones text
  have whole : count + others.length = 36 := by
    rw [← length_checked hash id, checked, split, List.length_append, List.length_replicate]
  have encoded : String.ofList (List.replicate other '1' ++ rest) =
      Base58.encode (List.replicate other 0 ++ others) := by
    rw [← String.toList_inj, String.toList_ofList, Base58.encode_zeros_append, same]
  have length : (List.replicate other 0 ++ others).length = 36 - count + other := by
    rw [List.length_append, List.length_replicate]
    omega
  rw [encoded, of_text_of_long (by omega), length]

/-- A text is read as an id exactly if it is the id's own, so every id is read back, with whatever
zeros it begins. Every other text is an error: one that differs from an id's in the ones at its
beginning, one of another count of octets, and one whose last four are not the checksum of the
others. -/
theorem id_texts_are_exact (hash : HashFunction) :
    (∀ text id, ofText hash text = .ok id ↔ text = id.toText hash) ∧
      (∀ text, (∀ id : Identifier, text ≠ id.toText hash) →
        ∃ reason, ofText hash text = .error (.invalidCb58 reason)) ∧
      (∀ (id : Identifier) count rest,
        (id.toText hash).toList = List.replicate count '1' ++ rest → ∀ other, other ≠ count →
          ofText hash (String.ofList (List.replicate other '1' ++ rest)) =
            .error (.invalidCb58 s!"decoded {36 - count + other} bytes, expected 36")) ∧
      (∀ octets, octets.length ≠ 36 → ofText hash (Base58.encode octets) =
        .error (.invalidCb58 s!"decoded {octets.length} bytes, expected 36")) ∧
      ∀ octets, octets.length = 36 → octets.drop 32 ≠ checksum hash (octets.take 32) →
        ofText hash (Base58.encode octets) = .error (.invalidCb58 "checksum mismatch") := by
  refine ⟨fun _ _ => of_text_eq_ok_iff, ?_, ?_, ?_, ?_⟩
  · intro text other
    cases read : ofText hash text with
    | ok id => exact absurd (of_text_eq_ok_iff.1 read) (other id)
    | error e =>
        obtain ⟨reason, rfl⟩ := invalid_of_error read
        exact ⟨reason, rfl⟩
  · intro id count rest text other differs
    exact of_text_of_other_ones text differs
  · intro octets other
    exact of_text_of_long other
  · intro octets count other
    exact of_text_of_unchecked count other

/-- The empty id's text begins with thirty-two ones. With one more or one less it is refused, and so
are a text with a character that is no digit, a single octet, and another checksum. -/
theorem empty_id_keeps_its_ones :
    ofText Sha256.sha256 "11111111111111111111111111111111LpoYY" = .ok zero ∧
      (∃ reason, ofText Sha256.sha256 "0" = .error (.invalidCb58 reason)) ∧
      ofText Sha256.sha256 "111111111111111111111111111111111LpoYY" =
        .error (.invalidCb58 "decoded 37 bytes, expected 36") ∧
      ofText Sha256.sha256 "1111111111111111111111111111111LpoYY" =
        .error (.invalidCb58 "decoded 35 bytes, expected 36") ∧
      ofText Sha256.sha256 (Base58.encode [0]) =
        .error (.invalidCb58 "decoded 1 bytes, expected 36") ∧
      ofText Sha256.sha256 (Base58.encode (zero.toList ++ [13, 95, 41, 38])) =
        .error (.invalidCb58 "checksum mismatch") := by
  obtain ⟨exactly, refused, ones, count, sum⟩ := id_texts_are_exact Sha256.sha256
  have sumEq : checksum Sha256.sha256 zero.toList = [13, 95, 41, 37] := by decide +kernel
  have text : zero.toText Sha256.sha256 = "11111111111111111111111111111111LpoYY" := by
    rw [toText, sumEq]
    decide +kernel
  have parts : (zero.toText Sha256.sha256).toList = List.replicate 32 '1' ++ "LpoYY".toList := by
    rw [text]
    decide
  have no_digit : (ofText Sha256.sha256 "0").toOption = none := by decide +kernel
  refine ⟨(exactly _ _).mpr text.symm, ?_, ?_, ?_, ?_, ?_⟩
  · refine refused "0" fun id same => ?_
    rw [(exactly "0" id).mpr same] at no_digit
    cases no_digit
  · exact ones zero 32 _ parts 33 (by decide)
  · exact ones zero 32 _ parts 31 (by decide)
  · exact count _ (by decide)
  · refine sum _ (by decide) ?_
    have front : (zero.toList ++ [13, 95, 41, 38]).take 32 = zero.toList := by decide
    rw [front, sumEq]
    decide

end SignedTx.Identifier
