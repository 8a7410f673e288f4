import SignedTx.Yaml.Basic
import SignedTx.Yaml.Token

/-!
# Reading YAML

A value is an alias, or a scalar, a block of entries or entries within braces, with an anchor and a
tag before it. A key or a value for which nothing is written is the empty scalar. A text holds
exactly one document, with or without its marks.
-/

set_option autoImplicit false

namespace SignedTx.Yaml

/-- What handles stand for; the last one declared comes first. -/
abbrev Handles := List (String × String)

/-- The handles that need no directive. -/
def standardHandles : Handles := [("!", "!"), ("!!", "tag:yaml.org,2002:")]

/-- The full name of a tag whose handle is known. -/
def Tag.resolve? (handles : Handles) (tag : Tag) : Option String :=
  if tag.handle.isEmpty then some tag.name
  else (handles.lookup tag.handle).map (· ++ tag.name)

/-- What anchors stand for, the last one first; nothing while the value is still being read. -/
abbrev Anchors := List (String × Option Yaml)

/-- The value of an anchor of which `later` ones have been read since. -/
def Anchors.complete (anchors : Anchors) (later : Nat) (name : String) (value : Yaml) : Anchors :=
  anchors.take later ++ (name, some value) :: anchors.drop (later + 1)

structure Properties where
  anchor : Option String := none
  tag : Option String := none

/-- An anchor and a tag in either order, neither twice. -/
def readProperties (handles : Handles) : List Token → Option (Properties × List Token)
  | .anchor name :: .tag tag :: rest | .tag tag :: .anchor name :: rest =>
    (tag.resolve? handles).map fun tag => ({ anchor := some name, tag := some tag }, rest)
  | .anchor name :: rest => some ({ anchor := some name }, rest)
  | .tag tag :: rest => (tag.resolve? handles).map fun tag => ({ tag := some tag }, rest)
  | tokens => some ({}, tokens)

/-- Whether nothing is written for a key or a value of a block. -/
def isVacantInBlock : List Token → Bool
  | .key :: _ | .value :: _ | .blockEnd :: _ => true
  | _ => false

/-- Whether nothing is written for a value within braces. -/
def isVacantInFlow : List Token → Bool
  | .separator :: _ | .flowEnd :: _ => true
  | _ => false

abbrev Found (α : Type) := α × Anchors × List Token

mutual

/-- A value; a block of entries cannot stand within braces. -/
def readValue (handles : Handles) (flow : Bool) :
    (fuel : Nat) → Anchors → List Token → Option (Found Yaml)
  | 0, _, _ => none
  | _ + 1, anchors, .reference name :: rest =>
    ((anchors.lookup name).join).map fun value => (value, anchors, rest)
  | fuel + 1, anchors, tokens => do
    let (properties, rest) ← readProperties handles tokens
    let started : Anchors := properties.anchor.toList.map (·, none) ++ anchors
    let tag := properties.tag.getD ""
    let (value, later, rest) ←
      match rest with
      | .scalar style text :: rest => some (.scalar style tag text, started, rest)
      | .flowStart :: rest =>
        (readFlow handles true fuel started rest).map fun (es, rest) => (.mapping es, rest)
      | .blockStart :: rest =>
        if flow then none
        else (readBlock handles fuel started rest).map fun (es, rest) => (.mapping es, rest)
      | _ =>
        if properties.anchor.isSome || properties.tag.isSome then
          some (.scalar .plain tag "", started, rest)
        else none
    match properties.anchor with
    | some name => return (value, later.complete (later.length - started.length) name value, rest)
    | none => return (value, later, rest)

/-- A key, which must be a scalar. -/
def readKey (handles : Handles) (flow : Bool) :
    (fuel : Nat) → Anchors → List Token → Option (Found String)
  | 0, _, _ => none
  | fuel + 1, anchors, tokens => do
    match ← readValue handles flow fuel anchors tokens with
    | (.scalar _ _ text, rest) => return (text, rest)
    | (.mapping _, _) => none

/-- The entries of a block, to its end. -/
def readBlock (handles : Handles) :
    (fuel : Nat) → Anchors → List Token → Option (Found (List (String × Yaml)))
  | _ + 1, anchors, .blockEnd :: rest => some ([], anchors, rest)
  | fuel + 1, anchors, .key :: rest => do
    let (name, anchors, rest) ←
      if isVacantInBlock rest then some ("", anchors, rest)
      else readKey handles false fuel anchors rest
    let (value, anchors, rest) ←
      match rest with
      | .value :: rest =>
        if isVacantInBlock rest then some (empty, anchors, rest)
        else readValue handles false fuel anchors rest
      | _ => some (empty, anchors, rest)
    let (more, anchors, rest) ← readBlock handles fuel anchors rest
    return ((name, value) :: more, anchors, rest)
  | _, _, _ => none

/-- Entries within braces, to the closing one; a scalar alone is a key. -/
def readFlow (handles : Handles) (first : Bool) :
    (fuel : Nat) → Anchors → List Token → Option (Found (List (String × Yaml)))
  | 0, _, _ => none
  | _ + 1, anchors, .flowEnd :: rest => some ([], anchors, rest)
  | fuel + 1, anchors, tokens => do
    let tokens ←
      match first, tokens with
      | true, tokens => some tokens
      | false, .separator :: rest => some rest
      | false, _ => none
    match tokens with
    | .flowEnd :: rest => return ([], anchors, rest)
    | .key :: rest => do
      let (name, anchors, rest) ←
        match rest with
        | .value :: _ | .separator :: _ | .flowEnd :: _ => some ("", anchors, rest)
        | _ => readKey handles true fuel anchors rest
      let (value, anchors, rest) ←
        match rest with
        | .value :: rest =>
          if isVacantInFlow rest then some (empty, anchors, rest)
          else readValue handles true fuel anchors rest
        | _ => some (empty, anchors, rest)
      let (more, anchors, rest) ← readFlow handles false fuel anchors rest
      return ((name, value) :: more, anchors, rest)
    | _ => do
      let (name, anchors, rest) ← readKey handles true fuel anchors tokens
      let (more, anchors, rest) ← readFlow handles false fuel anchors rest
      return ((name, empty) :: more, anchors, rest)

end

/-- The directives before a document: the version once, each handle once. -/
def readDirectives (versioned : Bool) (handles : Handles) :
    List Token → Option (Handles × List Token)
  | .directive .version :: rest => if versioned then none else readDirectives true handles rest
  | .directive (.handle name stem) :: rest =>
    if (handles.lookup name).isSome then none
    else readDirectives versioned ((name, stem) :: handles) rest
  | tokens => some (handles, tokens)

def ofTokens? (tokens : List Token) : Option Yaml := do
  let (declared, content) ← readDirectives false [] tokens
  let handles := declared ++ standardHandles
  let fuel := 3 * tokens.length + 3
  let (value, _, rest) ←
    match content with
    | .documentStart :: rest =>
      match rest with
      | [] | .documentStart :: _ | .documentEnd :: _ | .directive _ :: _ => some (empty, [], rest)
      | _ => readValue handles false fuel [] rest
    | _ => if content.length < tokens.length then none else readValue handles false fuel [] content
  if rest.all (· = .documentEnd) then return value else none

def parse? (text : String) : Option Yaml := (tokens? text).bind ofTokens?

end SignedTx.Yaml
