import SignedTx.Proofs.TypedData.Binding
import SignedTx.Proofs.TypedData.TypeString

/-!
# Struct hashes cover what messages denote

Binding says that messages with one struct hash denote the same. Here is the other direction, which
asks nothing of the hash function: what denotes the same has the same hash. So a struct hash covers
exactly the declared fields, all the way down, and neither spellings nor further members.
-/

set_option autoImplicit false

namespace SignedTx

namespace TypedData

variable {hash : HashFunction} {schema : Schema}

/-- Values that denote the same at a primitive type have the same word. -/
theorem Primitive.encode_of_same {primitive : Primitive} {type : String} {left right : Json}
    {word : Digest} (same : primitive.Same type left right)
    (encoded : primitive.encode hash type left = .ok word) :
    primitive.encode hash type right = .ok word := by
  cases primitive with
  | string =>
      obtain ⟨text, found, wordEq⟩ := encode_string_eq_ok.1 encoded
      obtain ⟨common, inLeft, inRight⟩ := same
      cases found.symm.trans inLeft
      exact encode_string_eq_ok.2 ⟨text, inRight, wordEq⟩
  | bytes =>
      obtain ⟨octets, found, wordEq⟩ := encode_bytes_eq_ok.1 encoded
      obtain ⟨common, inLeft, inRight⟩ := same
      cases found.symm.trans inLeft
      exact encode_bytes_eq_ok.2 ⟨octets, inRight, wordEq⟩
  | fixedBytes length =>
      obtain ⟨octets, found, -, wordEq⟩ := encode_fixed_bytes_eq_ok.1 encoded
      obtain ⟨common, other, inLeft, inRight, -, fits, padded⟩ := same
      cases found.symm.trans inLeft
      exact encode_fixed_bytes_eq_ok.2 ⟨other, inRight, fits, wordEq.trans padded⟩
  | address =>
      obtain ⟨text, account, found, decoded, wordEq⟩ := encode_address_eq_ok.1 encoded
      obtain ⟨common, other, same, inLeft, inRight, leftDecoded, rightDecoded⟩ := same
      cases found.symm.trans inLeft
      cases decoded.symm.trans leftDecoded
      exact encode_address_eq_ok.2 ⟨other, account, inRight, rightDecoded, wordEq⟩
  | bool =>
      obtain ⟨value, found, wordEq⟩ := encode_bool_eq_ok.1 encoded
      obtain ⟨common, inLeft, inRight⟩ := same
      cases found.symm.trans inLeft
      exact encode_bool_eq_ok.2 ⟨value, inRight, wordEq⟩
  | uint bits =>
      obtain ⟨value, found, bounds⟩ := encode_uint_eq_ok.1 encoded
      obtain ⟨common, inLeft, inRight⟩ := same
      cases found.symm.trans inLeft
      exact encode_uint_eq_ok.2 ⟨value, inRight, bounds⟩
  | int bits =>
      obtain ⟨value, found, bounds⟩ := encode_int_eq_ok.1 encoded
      obtain ⟨common, inLeft, inRight⟩ := same
      cases found.symm.trans inLeft
      exact encode_int_eq_ok.2 ⟨value, inRight, bounds⟩

theorem SameItems.length_eq {element : String} {left right : List Json}
    (same : SameItems schema element left right) : left.length = right.length := by
  induction left generalizing right with
  | nil =>
      cases same
      rfl
  | cons item rest induction =>
      cases same with
      | cons first later => exact congrArg (· + 1) (induction later)

mutual

/-- Values that denote the same have the same word. -/
theorem encode_value_of_same {type : String} {left right : Json} :
    SameValue schema type left right → ∀ {word : Digest},
      encodeValue hash schema left type = .ok word → encodeValue hash schema right type = .ok word
  | .primitive single undeclared named same, word, encoded => by
      obtain ⟨other, otherNamed, leftWord⟩ :=
        (encode_value_eq_ok_of_primitive single undeclared).mp encoded
      cases named.symm.trans otherNamed
      exact (encode_value_eq_ok_of_primitive single undeclared).mpr
        ⟨_, named, Primitive.encode_of_same same leftWord⟩
  | .array array same, word, encoded => by
      obtain ⟨items, words, itemsEq, checked, leftWords, wordEq⟩ :=
        (encode_value_eq_ok_of_array array).mp encoded
      cases itemsEq
      rw [same.length_eq] at checked
      exact (encode_value_eq_ok_of_array array).mpr
        ⟨_, words, rfl, checked, encode_items_of_same same leftWords, wordEq⟩
  | .struct single declared same, word, encoded => by
      have known : schema.declares type = true := by rw [Schema.declares, declared]; rfl
      obtain ⟨members, membersEq, hashed⟩ :=
        (encode_value_eq_ok_of_struct single known).mp encoded
      cases membersEq
      obtain ⟨typeWord, words, typed, leftWords, wordEq⟩ := hash_struct_eq_ok.1 hashed
      obtain ⟨fields, otherDeclared, listed⟩ := encode_data_eq_ok.1 leftWords
      cases declared.symm.trans otherDeclared
      exact (encode_value_eq_ok_of_struct single known).mpr ⟨_, rfl, hash_struct_eq_ok.2
        ⟨typeWord, words, typed, encode_data_eq_ok.2
          ⟨_, declared, field_words_of_same same listed⟩, wordEq⟩⟩

theorem encode_items_of_same {element : String} {left right : List Json} :
    SameItems schema element left right → ∀ {words : List UInt8},
      encodeItems hash schema left element = .ok words →
      encodeItems hash schema right element = .ok words
  | .nil, _, encoded => encoded
  | .cons first later, words, encoded => by
      obtain ⟨word, rest, here, there, wordsEq⟩ := encode_items_cons_eq_ok.1 encoded
      exact encode_items_cons_eq_ok.2
        ⟨word, rest, encode_value_of_same first here, encode_items_of_same later there, wordsEq⟩

theorem field_words_of_same {name : String} {fields : List Field} {left right : Json.Object} :
    SameFields schema fields left right → ∀ {words : List UInt8},
      fieldWords name (encodeMembers hash schema left) fields = .ok words →
      fieldWords name (encodeMembers hash schema right) fields = .ok words
  | .nil, _, encoded => encoded
  | .cons inLeft inRight first later, words, encoded => by
      obtain ⟨value, word, rest, found, here, there, wordsEq⟩ := field_words_cons_eq_ok.1 encoded
      cases inLeft.symm.trans found
      exact field_words_cons_eq_ok.2
        ⟨_, word, rest, inRight, encode_value_of_same first here, field_words_of_same later there,
          wordsEq⟩

end

theorem hash_struct_of_same {name : String} {left right : Json.Object} {digest : Digest}
    (same : SameStruct schema name left right)
    (hashed : hashStruct hash schema name left = .ok digest) :
    hashStruct hash schema name right = .ok digest := by
  obtain ⟨fields, declared, sameFields⟩ := same
  obtain ⟨type, words, typed, encoded, digestEq⟩ := hash_struct_eq_ok.1 hashed
  obtain ⟨others, otherDeclared, leftWords⟩ := encode_data_eq_ok.1 encoded
  cases declared.symm.trans otherDeclared
  have rightWords := field_words_of_same sameFields leftWords
  exact hash_struct_eq_ok.2
    ⟨type, words, typed, encode_data_eq_ok.2 ⟨fields, declared, rightWords⟩, digestEq⟩

end TypedData

open TypedData

/-- Two messages have one struct hash if and only if they denote the same at every declared field,
through nested structs and arrays; further members and spellings count for nothing. The hash
function is only asked to separate the strings that are hashed for the two messages. -/
theorem struct_hash_covers_denotation (hash : HashFunction) (schema : Schema) (name : String)
    (left right : Json.Object) (leftDigest rightDigest : Digest)
    (leftHashed : hashStruct hash schema name left = .ok leftDigest)
    (rightHashed : hashStruct hash schema name right = .ok rightDigest)
    (injective : Set.InjOn hash {bytes | HashedInStruct hash schema left name bytes ∨
      HashedInStruct hash schema right name bytes}) :
    leftDigest = rightDigest ↔ SameStruct schema name left right := by
  constructor
  · intro digests
    rw [← digests] at rightHashed
    exact same_struct_of_hash_eq leftHashed rightHashed injective
  · intro same
    have transferred := hash_struct_of_same same leftHashed
    exact Except.ok.inj (transferred.symm.trans rightHashed)

/-! ## A chain of nodes -/

/-- Octets behind a mark, modulo a prime: enough to keep a few strings and their hashes apart. -/
def markedHash : HashFunction := fun bytes => Octets.ofNat 32 (beNat (1 :: bytes) % (2 ^ 255 - 19))

/-- A struct that holds values of itself. -/
def nodeSchema : Schema := [("Node", [⟨"label", "bytes4"⟩, ⟨"next", "Node[]"⟩])]

def nodeTypeText : String := "Node(bytes4 label,Node[] next)"

theorem encode_type_of_node : nodeSchema.encodeType "Node" = .ok nodeTypeText := by
  have declared : nodeSchema.fields? "Node" = some _ := rfl
  have walked : nodeSchema.reach ["Node"] [⟨"label", "bytes4"⟩, ⟨"next", "Node[]"⟩] =
      .ok ["Node"] := by
    rw [Schema.reach_of_primitive (by decide), Schema.reach_of_seen rfl rfl, Schema.reach]
  have others : (["Node"].filter (· ≠ "Node")) = [] := by decide
  rw [Schema.encode_type_of_reached declared walked, others, List.mergeSort_nil]
  exact congrArg Except.ok (by decide)

/-- A message with the given label and successors, whatever else it has. -/
structure IsNode (message : Json.Object) (label : List UInt8) (next : List Json) : Prop where
  labelled : ∃ text, message.get? "label" = some text ∧ hexOctets "bytes4" text = .ok label
  short : label.length ≤ 4
  followed : message.get? "next" = some (.array next)

/-- What is hashed for a node, from the words of its successors. -/
def nodePreimage (label words : List UInt8) : List UInt8 :=
  (markedHash (utf8 nodeTypeText)).toList ++
    [Octets.padRight 32 label, markedHash words].flatMap Octets.toList

namespace IsNode

variable {message other : Json.Object} {label otherLabel words : List UInt8}
  {next otherNext : List Json}

theorem encode_data (node : IsNode message label next)
    (encoded : encodeItems markedHash nodeSchema next "Node" = .ok words) :
    encodeData markedHash nodeSchema "Node" message =
      .ok ([Octets.padRight 32 label, markedHash words].flatMap Octets.toList) := by
  obtain ⟨⟨text, found, octets⟩, short, followed⟩ := node
  have declared : nodeSchema.fields? "Node" = some _ := rfl
  have labelWord : encodeValue markedHash nodeSchema text "bytes4" =
      .ok (Octets.padRight 32 label) :=
    (encode_value_eq_ok_of_primitive rfl rfl).mpr
      ⟨.fixedBytes 4, rfl, Primitive.encode_fixed_bytes_eq_ok.mpr ⟨label, octets, short, rfl⟩⟩
  have nextWord : encodeValue markedHash nodeSchema (.array next) "Node[]" =
      .ok (markedHash words) :=
    (encode_value_eq_ok_of_array rfl).mpr ⟨next, words, rfl, rfl, encoded, rfl⟩
  apply encode_data_of_words declared
  exact .cons ⟨text, found, labelWord⟩ (.cons ⟨_, followed, nextWord⟩ .nil)

theorem hash_struct (node : IsNode message label next)
    (encoded : encodeItems markedHash nodeSchema next "Node" = .ok words) :
    hashStruct markedHash nodeSchema "Node" message =
      .ok (markedHash (nodePreimage label words)) :=
  hash_struct_of_words encode_type_of_node (node.encode_data encoded)

theorem hashed_cases (node : IsNode message label next)
    (encoded : encodeItems markedHash nodeSchema next "Node" = .ok words) {bytes : List UInt8}
    (hashed : HashedInStruct markedHash nodeSchema message "Node" bytes) :
    bytes = utf8 nodeTypeText ∨ bytes = nodePreimage label words ∨ bytes = words ∨
      ∃ item ∈ next, HashedInValue markedHash nodeSchema item "Node" bytes := by
  have declared : nodeSchema.fields? "Node" = some _ := rfl
  rcases hashed.cases_of_words encode_type_of_node declared (node.encode_data encoded)
    with isType | isNode | ⟨field, listed, value, found, inside⟩
  · exact .inl isType
  · exact .inr (.inl isNode)
  · simp only [List.mem_cons, List.not_mem_nil, or_false] at listed
    rcases listed with rfl | rfl
    -- A label of four octets is its own word.
    · have none_hashed : (Primitive.fixedBytes 4).Hashes "bytes4" value bytes :=
        inside.primitive_hashes rfl rfl rfl
      cases none_hashed
    · cases found.symm.trans node.followed
      exact .inr (.inr (inside.array_hashes rfl encoded))

theorem same_iff (left : IsNode message label next) (right : IsNode other otherLabel otherNext) :
    SameStruct nodeSchema "Node" message other ↔
      Octets.padRight 32 label = Octets.padRight 32 otherLabel ∧
        SameItems nodeSchema "Node" next otherNext := by
  obtain ⟨⟨text, found, octets⟩, short, followed⟩ := left
  obtain ⟨⟨otherText, otherFound, otherOctets⟩, otherShort, otherFollowed⟩ := right
  constructor
  · intro same
    obtain ⟨fields, declared, sameFields⟩ := same
    cases declared
    cases sameFields with
    | cons inLeft inRight labels later =>
        cases later with
        | cons nextLeft nextRight successors _ =>
            cases inLeft.symm.trans found
            cases inRight.symm.trans otherFound
            cases nextLeft.symm.trans followed
            cases nextRight.symm.trans otherFollowed
            have sameLabel : (Primitive.fixedBytes 4).Same "bytes4" text otherText :=
              labels.primitive_same rfl rfl rfl
            obtain ⟨bytes, others, read, otherRead, -, -, padded⟩ := sameLabel
            cases read.symm.trans octets
            cases otherRead.symm.trans otherOctets
            exact ⟨padded, successors.items_same rfl⟩
  · intro parts
    have sameLabel : (Primitive.fixedBytes 4).Same "bytes4" text otherText :=
      ⟨label, otherLabel, octets, otherOctets, short, otherShort, parts.1⟩
    have labels : SameValue nodeSchema "bytes4" text otherText := .primitive rfl rfl rfl sameLabel
    have successors : SameValue nodeSchema "Node[]" (.array next) (.array otherNext) :=
      .array rfl parts.2
    exact ⟨_, rfl, .cons found otherFound labels (.cons followed otherFollowed successors .nil)⟩

end IsNode

/-- A node whose only successor has none. -/
structure IsChain (message last : Json.Object) (label lastLabel : List UInt8) : Prop where
  first : IsNode message label [.object last]
  last : IsNode last lastLabel []

/-- The strings that are hashed for a chain, from the inside. -/
def chainStrings (label lastLabel : List UInt8) : List (List UInt8) :=
  let lastWord := (markedHash (nodePreimage lastLabel [])).toList
  [utf8 nodeTypeText, [], nodePreimage lastLabel [], lastWord, nodePreimage label lastWord]

namespace IsChain

variable {message last other otherLast : Json.Object}
  {label lastLabel otherLabel otherLastLabel : List UInt8}

theorem encode_last (chain : IsChain message last label lastLabel) :
    encodeItems markedHash nodeSchema [.object last] "Node" =
      .ok (markedHash (nodePreimage lastLabel [])).toList := by
  have hashed : hashStruct markedHash nodeSchema "Node" last =
      .ok (markedHash (nodePreimage lastLabel [])) := chain.last.hash_struct rfl
  have lastWord : encodeValue markedHash nodeSchema (.object last) "Node" =
      .ok (markedHash (nodePreimage lastLabel [])) :=
    (encode_value_eq_ok_of_struct rfl rfl).mpr ⟨last, rfl, hashed⟩
  exact encode_items_cons_eq_ok.mpr ⟨_, [], lastWord, rfl, (List.append_nil _).symm⟩

theorem mem_strings (chain : IsChain message last label lastLabel) {bytes : List UInt8}
    (hashed : HashedInStruct markedHash nodeSchema message "Node" bytes) :
    bytes ∈ chainStrings label lastLabel := by
  -- Equations are not substituted here: that would evaluate the hashes in them.
  rcases chain.first.hashed_cases chain.encode_last hashed with
    isType | isNode | isWords | ⟨item, only, inside⟩
  · simp [chainStrings, isType]
  · simp [chainStrings, isNode]
  · simp [chainStrings, isWords]
  · cases List.mem_singleton.mp only
    rcases chain.last.hashed_cases rfl (inside.hashed_in_struct rfl) with
      isType | isNode | isWords | ⟨item, absent, -⟩
    · simp [chainStrings, isType]
    · simp [chainStrings, isNode]
    · simp [chainStrings, isWords]
    · cases absent

theorem same_iff (left : IsChain message last label lastLabel)
    (right : IsChain other otherLast otherLabel otherLastLabel) :
    SameStruct nodeSchema "Node" message other ↔
      Octets.padRight 32 label = Octets.padRight 32 otherLabel ∧
        Octets.padRight 32 lastLabel = Octets.padRight 32 otherLastLabel := by
  rw [left.first.same_iff right.first]
  apply and_congr_right
  intro _
  constructor
  · intro items
    cases items with
    | cons only _ => exact ((left.last.same_iff right.last).mp ⟨_, rfl, only.struct_same rfl⟩).1
  · intro padded
    obtain ⟨fields, declared, same⟩ := (left.last.same_iff right.last).mpr ⟨padded, .nil⟩
    exact .cons (.struct rfl declared same) .nil

theorem separates (left : IsChain message last label lastLabel)
    (right : IsChain other otherLast otherLabel otherLastLabel)
    (distinct : (((chainStrings label lastLabel ++
      chainStrings otherLabel otherLastLabel).dedup).map markedHash).Nodup) :
    Set.InjOn markedHash {bytes | HashedInStruct markedHash nodeSchema message "Node" bytes ∨
      HashedInStruct markedHash nodeSchema other "Node" bytes} := by
  apply separates_of_listed distinct
  intro bytes inside
  rw [List.mem_append]
  exact inside.imp left.mem_strings right.mem_strings

end IsChain

def chain (label last : String) : Json.Object :=
  [("label", .string label), ("next", .array [
    .object [("label", .string last), ("next", .array [])]])]

/-- The first chain with other spellings of its labels, and a member that is not declared. -/
def respelledChain : Json.Object :=
  [("hint", .null), ("label", .string "ab00"), ("next", .array [
    .object [("label", .string "0x0100"), ("next", .array [])]])]

theorem is_chain {label last : String} {octets lastOctets : List UInt8}
    (read : hexOctets "bytes4" (.string label) = .ok octets) (short : octets.length ≤ 4)
    (lastRead : hexOctets "bytes4" (.string last) = .ok lastOctets)
    (lastShort : lastOctets.length ≤ 4) :
    IsChain (chain label last) [("label", .string last), ("next", .array [])] octets lastOctets :=
  ⟨⟨⟨_, rfl, read⟩, short, rfl⟩, ⟨⟨_, rfl, lastRead⟩, lastShort, rfl⟩⟩

theorem respelled_is_chain :
    IsChain respelledChain [("label", .string "0x0100"), ("next", .array [])] [0xab, 0] [1, 0] :=
  ⟨⟨⟨_, rfl, rfl⟩, by decide, rfl⟩, ⟨⟨_, rfl, rfl⟩, by decide, rfl⟩⟩

/-- Spellings and the further member leave the hash as it is; another label at the end of the chain
does not. -/
theorem respelled_chain_keeps_its_hash : ∃ digest other,
    hashStruct markedHash nodeSchema "Node" (chain "0xab" "0x01") = .ok digest ∧
      hashStruct markedHash nodeSchema "Node" respelledChain = .ok digest ∧
      hashStruct markedHash nodeSchema "Node" (chain "0xab" "0x02") = .ok other ∧
      digest ≠ other := by
  have first : IsChain (chain "0xab" "0x01") _ [0xab] [1] :=
    is_chain rfl (by decide) rfl (by decide)
  have changed : IsChain (chain "0xab" "0x02") _ [0xab] [2] :=
    is_chain rfl (by decide) rfl (by decide)
  have hashed := first.first.hash_struct first.encode_last
  have respelled := respelled_is_chain.first.hash_struct respelled_is_chain.encode_last
  have changedHash := changed.first.hash_struct changed.encode_last
  have same := struct_hash_covers_denotation markedHash nodeSchema "Node" _ _ _ _ hashed respelled
    (first.separates respelled_is_chain (by decide +kernel))
  have differ := struct_hash_covers_denotation markedHash nodeSchema "Node" _ _ _ _ hashed
    changedHash (first.separates changed (by decide +kernel))
  rw [first.same_iff respelled_is_chain] at same
  rw [first.same_iff changed] at differ
  have shared := same.mpr ⟨by decide, by decide⟩
  rw [← shared] at respelled
  refine ⟨_, _, hashed, respelled, changedHash, ?_⟩
  intro equal
  exact absurd (differ.mp equal).2 (by decide)

end SignedTx
