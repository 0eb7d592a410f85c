/-
# Grammar

How the tokens of a text spell a document.  A name gets as its number how many different names
there were before it; a name that is given again gets a new number, which the next new name then
shares.
-/
import DeviceFleet.Yaml.Layout
import DeviceFleet.Yaml.Node

namespace DeviceFleet.Yaml

/-! ## Names and tags -/

/-- The names of a document so far, each with its last number. -/
abbrev Names : Type := List (List Char × Nat)

/-- The number of a name that is given to a node, and the names with it. -/
def Names.give (names : Names) (name : List Char) : Nat × Names :=
  (names.length, (name, names.length) :: names.filter fun entry => entry.1 != name)

/-- What tags start with, by handle. -/
abbrev TagPrefixes : Type := List (List Char × List Char)

/-- What the tags of every document start with, unless it says otherwise. -/
def standardPrefixes : TagPrefixes :=
  [(['!'], ['!']), (['!', '!'], "tag:yaml.org,2002:".toList)]

/-- The whole tag that a written one stands for. -/
def WrittenTag.resolve (prefixes : TagPrefixes) (t : WrittenTag) : Option (List Char) :=
  if t.handle.isEmpty then some t.text else (prefixes.lookup t.handle).map (· ++ t.text)

/-- What stands before the content of a node. -/
structure Properties where
  /-- Its name. -/
  anchor : Option (List Char) := none
  /-- Its tag. -/
  tag : Option WrittenTag := none
deriving DecidableEq, Repr

/-- Takes the properties of a node, in either order. -/
def properties : List Token → Properties × List Token
  | .anchor name :: .tag t :: r => (⟨some name, some t⟩, r)
  | .anchor name :: r => (⟨some name, none⟩, r)
  | .tag t :: .anchor name :: r => (⟨some name, some t⟩, r)
  | .tag t :: r => (⟨none, some t⟩, r)
  | r => ({}, r)

theorem length_properties_le (ts : List Token) : (properties ts).2.length ≤ ts.length := by
  unfold properties
  split <;> simp only [List.length_cons] <;> omega

/-- What is known of a node before its content. -/
structure Header where
  /-- Its number. -/
  number : Option Nat
  /-- Its tag. -/
  tag : Option (List Char)
deriving DecidableEq, Repr

/-- The header of a node with the given properties, and the names with its own. -/
def header (prefixes : TagPrefixes) (names : Names) (p : Properties) : Option (Header × Names) :=
  let tag : Option (Option (List Char)) :=
    match p.tag with
    | none => some none
    | some t => (t.resolve prefixes).map some
  match tag, p.anchor with
  | none, _ => none
  | some tag, none => some (⟨none, tag⟩, names)
  | some tag, some name => some (⟨some (names.give name).1, tag⟩, (names.give name).2)

/-- The scalar that stands where no node does. -/
def nothing : Node := .scalar none none true []

/-! ## Nodes -/

/-- Where a node stands. -/
inductive Place where
  /-- In a flow collection. -/
  | flow
  /-- In a block. -/
  | block
  /-- In a block mapping, where the items of a sequence need no indentation. -/
  | blockEntry
deriving DecidableEq, Repr

/-- Whether the content of a node may start with a token. -/
def startsContent (place : Place) : Token → Bool
  | .scalar .. | .flowSequence | .flowMapping => true
  | .blockSequence | .blockMapping => place != .flow
  | .item => place == .blockEntry
  | _ => false

/-- Whether there is a next token and it satisfies `p`. -/
def isNext (p : Token → Bool) : List Token → Bool
  | [] => false
  | t :: _ => p t

/-- What ends an item of a block sequence. -/
def endsItem : Token → Bool
  | .item | .blockEnd => true
  | _ => false

/-- What ends an item of a sequence without indentation. -/
def endsBareItem : Token → Bool
  | .item | .key | .value | .blockEnd => true
  | _ => false

/-- What ends a key or a value of a block mapping. -/
def endsEntry : Token → Bool
  | .key | .value | .blockEnd => true
  | _ => false

/-- What ends a key of a flow mapping. -/
def endsFlowKey : Token → Bool
  | .value | .comma | .flowMappingEnd => true
  | _ => false

/-- What ends a value of a flow mapping. -/
def endsFlowValue : Token → Bool
  | .comma | .flowMappingEnd => true
  | _ => false

/-- What ends a key in a flow sequence. -/
def endsPairKey : Token → Bool
  | .value | .comma | .flowSequenceEnd => true
  | _ => false

/-- What ends a value in a flow sequence. -/
def endsPairValue : Token → Bool
  | .comma | .flowSequenceEnd => true
  | _ => false

/-- A part of a document that was taken off the start of `ts`, the names given since, and the rest,
which is shorter. -/
abbrev Taken (α : Type) (ts : List Token) : Type :=
  Option (α × Names × { r : List Token // r.length < ts.length })

/-- A part of a document that may be empty. -/
abbrev Allowed (α : Type) (ts : List Token) : Type :=
  Option (α × Names × { r : List Token // r.length ≤ ts.length })

mutual

/-- Takes a node. -/
def node (prefixes : TagPrefixes) (place : Place) (names : Names) (ts : List Token) :
    Taken Node ts :=
  match ts with
  | .alias name :: r =>
    match names.lookup name with
    | none => none
    | some number => some (.alias number, names, ⟨r, Nat.lt_succ_self _⟩)
  | ts =>
    match header prefixes names (properties ts).1 with
    | none => none
    | some (h, names) =>
      if isNext (startsContent place) (properties ts).2 then
        match content prefixes names h (properties ts).2 with
        | none => none
        | some (n, names, ⟨r, hr⟩) =>
          some (n, names, ⟨r, Nat.lt_of_lt_of_le hr (length_properties_le ts)⟩)
      else if hp : (properties ts).2.length < ts.length then
        some (.scalar h.number h.tag true [], names, ⟨(properties ts).2, hp⟩)
      else none
termination_by (ts.length, 1)
decreasing_by
  rcases Nat.lt_or_eq_of_le (length_properties_le ts) with shorter | same
  · exact Prod.Lex.left _ _ shorter
  · rw [same]
    exact Prod.Lex.right _ Nat.zero_lt_one

/-- Takes the content of a node. -/
def content (prefixes : TagPrefixes) (names : Names) (h : Header) (ts : List Token) :
    Taken Node ts :=
  match ts with
  | .scalar isPlain text :: r =>
    some (.scalar h.number h.tag isPlain text, names, ⟨r, Nat.lt_succ_self _⟩)
  | .flowSequence :: r =>
    match flowItems prefixes names r with
    | none => none
    | some (items, names, ⟨u, hu⟩) =>
      some (.sequence h.number items, names, ⟨u, Nat.lt_succ_of_lt hu⟩)
  | .flowMapping :: r =>
    match flowEntries prefixes names r with
    | none => none
    | some (entries, names, ⟨u, hu⟩) =>
      some (.mapping h.number entries, names, ⟨u, Nat.lt_succ_of_lt hu⟩)
  | .blockSequence :: r =>
    match blockItems prefixes names r with
    | none => none
    | some (items, names, ⟨u, hu⟩) =>
      some (.sequence h.number items, names, ⟨u, Nat.lt_succ_of_lt hu⟩)
  | .blockMapping :: r =>
    match blockEntries prefixes names r with
    | none => none
    | some (entries, names, ⟨u, hu⟩) =>
      some (.mapping h.number entries, names, ⟨u, Nat.lt_succ_of_lt hu⟩)
  | .item :: r =>
    match nodeUnless prefixes .block endsBareItem names r with
    | none => none
    | some (item, names, ⟨u, hu⟩) =>
      match bareItems prefixes names u with
      | none => none
      | some (items, names, ⟨v, hv⟩) =>
        some (.sequence h.number (item :: items), names,
          ⟨v, Nat.lt_succ_of_le (Nat.le_trans hv hu)⟩)
  | _ => none
termination_by (ts.length, 0)

/-- Takes a node, or nothing before one of the tokens that end its place. -/
def nodeUnless (prefixes : TagPrefixes) (place : Place) (ends : Token → Bool) (names : Names)
    (ts : List Token) : Allowed Node ts :=
  if isNext ends ts then some (nothing, names, ⟨ts, Nat.le_refl _⟩)
  else
    match node prefixes place names ts with
    | none => none
    | some (n, names, ⟨r, hr⟩) => some (n, names, ⟨r, Nat.le_of_lt hr⟩)
termination_by (ts.length, 2)

/-- Takes the items of a block sequence and its end. -/
def blockItems (prefixes : TagPrefixes) (names : Names) (ts : List Token) :
    Taken (List Node) ts :=
  match ts with
  | .blockEnd :: r => some ([], names, ⟨r, Nat.lt_succ_self _⟩)
  | .item :: r =>
    match nodeUnless prefixes .block endsItem names r with
    | none => none
    | some (item, names, ⟨u, hu⟩) =>
      match blockItems prefixes names u with
      | none => none
      | some (items, names, ⟨v, hv⟩) =>
        some (item :: items, names, ⟨v, Nat.lt_succ_of_lt (Nat.lt_of_lt_of_le hv hu)⟩)
  | _ => none
termination_by (ts.length, 0)

/-- Takes the further items of a sequence without indentation. -/
def bareItems (prefixes : TagPrefixes) (names : Names) (ts : List Token) :
    Allowed (List Node) ts :=
  match ts with
  | .item :: r =>
    match nodeUnless prefixes .block endsBareItem names r with
    | none => none
    | some (item, names, ⟨u, hu⟩) =>
      match bareItems prefixes names u with
      | none => none
      | some (items, names, ⟨v, hv⟩) =>
        some (item :: items, names, ⟨v, Nat.le_succ_of_le (Nat.le_trans hv hu)⟩)
  | ts => some ([], names, ⟨ts, Nat.le_refl _⟩)
termination_by (ts.length, 0)

/-- Takes the entries of a block mapping and its end. -/
def blockEntries (prefixes : TagPrefixes) (names : Names) (ts : List Token) :
    Taken (List (Node × Node)) ts :=
  match ts with
  | .blockEnd :: r => some ([], names, ⟨r, Nat.lt_succ_self _⟩)
  | .key :: r =>
    match nodeUnless prefixes .blockEntry endsEntry names r with
    | none => none
    | some (key, names, ⟨u, hu⟩) =>
      match valueUnless prefixes .blockEntry endsEntry names u with
      | none => none
      | some (value, names, ⟨v, hv⟩) =>
        match blockEntries prefixes names v with
        | none => none
        | some (entries, names, ⟨w, hw⟩) =>
          some ((key, value) :: entries, names,
            ⟨w, Nat.lt_succ_of_lt (Nat.lt_of_lt_of_le hw (Nat.le_trans hv hu))⟩)
  | _ => none
termination_by (ts.length, 0)

/-- Takes a colon with the value after it, or nothing. -/
def valueUnless (prefixes : TagPrefixes) (place : Place) (ends : Token → Bool) (names : Names)
    (ts : List Token) : Allowed Node ts :=
  match ts with
  | .value :: r =>
    match nodeUnless prefixes place ends names r with
    | none => none
    | some (n, names, ⟨u, hu⟩) => some (n, names, ⟨u, Nat.le_succ_of_le hu⟩)
  | ts => some (nothing, names, ⟨ts, Nat.le_refl _⟩)
termination_by (ts.length, 3)

/-- Takes the items of a flow sequence from where one may start, and its end. -/
def flowItems (prefixes : TagPrefixes) (names : Names) (ts : List Token) :
    Taken (List Node) ts :=
  match ts with
  | .flowSequenceEnd :: r => some ([], names, ⟨r, Nat.lt_succ_self _⟩)
  | .key :: r =>
    match pair prefixes names r with
    | none => none
    | some (item, names, ⟨u, hu⟩) =>
      match moreItems prefixes names u with
      | none => none
      | some (items, names, ⟨v, hv⟩) =>
        some (item :: items, names, ⟨v, Nat.lt_succ_of_lt (Nat.lt_of_lt_of_le hv hu)⟩)
  | ts =>
    match node prefixes .flow names ts with
    | none => none
    | some (item, names, ⟨u, hu⟩) =>
      match moreItems prefixes names u with
      | none => none
      | some (items, names, ⟨v, hv⟩) => some (item :: items, names, ⟨v, Nat.lt_trans hv hu⟩)
termination_by (ts.length, 2)

/-- Takes the items of a flow sequence after an earlier one, and its end. -/
def moreItems (prefixes : TagPrefixes) (names : Names) (ts : List Token) :
    Taken (List Node) ts :=
  match ts with
  | .flowSequenceEnd :: r => some ([], names, ⟨r, Nat.lt_succ_self _⟩)
  | .comma :: r =>
    match flowItems prefixes names r with
    | none => none
    | some (items, names, ⟨u, hu⟩) => some (items, names, ⟨u, Nat.lt_succ_of_lt hu⟩)
  | _ => none
termination_by (ts.length, 0)

/-- Takes the key and value of a mapping of one entry in a flow sequence.  Where no key is, the
token that ends its place goes with it. -/
def pair (prefixes : TagPrefixes) (names : Names) (ts : List Token) : Allowed Node ts :=
  match ts with
  | [] => none
  | t :: r =>
    if endsPairKey t then
      match valueUnless prefixes .flow endsPairValue names r with
      | none => none
      | some (value, names, ⟨u, hu⟩) =>
        some (.mapping none [(nothing, value)], names, ⟨u, Nat.le_succ_of_le hu⟩)
    else
      match node prefixes .flow names (t :: r) with
      | none => none
      | some (key, names, ⟨u, hu⟩) =>
        match valueUnless prefixes .flow endsPairValue names u with
        | none => none
        | some (value, names, ⟨v, hv⟩) =>
          some (.mapping none [(key, value)], names, ⟨v, Nat.le_trans hv (Nat.le_of_lt hu)⟩)
termination_by (ts.length, 2)

/-- Takes the entries of a flow mapping from where one may start, and its end. -/
def flowEntries (prefixes : TagPrefixes) (names : Names) (ts : List Token) :
    Taken (List (Node × Node)) ts :=
  match ts with
  | .flowMappingEnd :: r => some ([], names, ⟨r, Nat.lt_succ_self _⟩)
  | .key :: r =>
    match nodeUnless prefixes .flow endsFlowKey names r with
    | none => none
    | some (key, names, ⟨u, hu⟩) =>
      match valueUnless prefixes .flow endsFlowValue names u with
      | none => none
      | some (value, names, ⟨v, hv⟩) =>
        match moreEntries prefixes names v with
        | none => none
        | some (entries, names, ⟨w, hw⟩) =>
          some ((key, value) :: entries, names,
            ⟨w, Nat.lt_succ_of_lt (Nat.lt_of_lt_of_le hw (Nat.le_trans hv hu))⟩)
  | ts =>
    match node prefixes .flow names ts with
    | none => none
    | some (key, names, ⟨u, hu⟩) =>
      match moreEntries prefixes names u with
      | none => none
      | some (entries, names, ⟨v, hv⟩) =>
        some ((key, nothing) :: entries, names, ⟨v, Nat.lt_trans hv hu⟩)
termination_by (ts.length, 2)

/-- Takes the entries of a flow mapping after an earlier one, and its end. -/
def moreEntries (prefixes : TagPrefixes) (names : Names) (ts : List Token) :
    Taken (List (Node × Node)) ts :=
  match ts with
  | .flowMappingEnd :: r => some ([], names, ⟨r, Nat.lt_succ_self _⟩)
  | .comma :: r =>
    match flowEntries prefixes names r with
    | none => none
    | some (entries, names, ⟨u, hu⟩) => some (entries, names, ⟨u, Nat.lt_succ_of_lt hu⟩)
  | _ => none
termination_by (ts.length, 0)

end

/-! ## Documents -/

/-- Reads the directives before a document and the mark of its start; each directive may occur
once, and only versions 1.1 and 1.2 are read. -/
def readDirectives (versioned : Bool) (prefixes : TagPrefixes) :
    List Token → Option (TagPrefixes × List Token)
  | .version major minor :: r =>
    if versioned || major != 1 || !(minor == 1 || minor == 2) then none
    else readDirectives true prefixes r
  | .tagPrefix handle start :: r =>
    if (prefixes.lookup handle).isSome then none
    else readDirectives versioned ((handle, start) :: prefixes) r
  | .documentStart :: r => some (prefixes, r)
  | _ => none

/-- Whether a token cannot be part of a document's content. -/
def isDocumentToken : Token → Bool
  | .version .. | .tagPrefix .. | .documentStart | .documentEnd => true
  | _ => false

/-- The root of the only document of a text, given the tokens of its content and what follows. -/
def root (prefixes : TagPrefixes) (ts : List Token) : Option Node :=
  match node prefixes .block [] ts with
  | none => none
  | some (n, _, ⟨r, _⟩) => if r.all (· == .documentEnd) then some n else none

/-- The root of a document after the mark of its start. -/
def rootAfterMark (prefixes : TagPrefixes) (ts : List Token) : Option Node :=
  if ts.all (· == .documentEnd) then some nothing else root prefixes ts

/-- What tokens spell: a text without any holds no document, others hold one; more are refused. -/
def document (ts : List Token) : Option (Option Node) :=
  if ts.isEmpty then some none
  else if isNext (fun t => isDocumentToken t && t != .documentEnd) ts then
    match readDirectives false [] ts with
    | none => none
    | some (prefixes, r) => (rootAfterMark (prefixes ++ standardPrefixes) r).map some
  else (root standardPrefixes ts).map some

/-- The root of the document in a text, if it holds one, unless the text is malformed. -/
def parse (text : List Char) : Option (Option Node) := (tokens? text).bind document

end DeviceFleet.Yaml
