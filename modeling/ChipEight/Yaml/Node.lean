import ChipEight.Yaml.Scan

/-!
# Documents as trees

A document is a tree of texts, lists and mappings.  A node may have a name, and
other places of the document may refer to it; a reference is resolved when it
is looked at, so a tree may even refer to a node that contains the reference.

The parts of a document are its texts, its references and both ends of each list
and mapping, also of those that are not written.  A named node is known by the
number of parts in front of it.  References have numbers of their own: that of
the different names that were known before the node with the name.  Several
nodes may have one number, and of those the one that begins last counts.

A text whose syntax breaks still has a tree: it shows what was read before the
fault.  From the fault on there are only cuts, and every list and mapping that
was open at the fault ends with one.
-/

namespace ChipEight
namespace Yaml

/-- A text together with how it is written and its tag. -/
structure Scalar where
  text : String
  style : Style
  tag : Option Tag
deriving DecidableEq

/-- A part of a document. -/
inductive Node where
  | scalar (scalar : Scalar)
  | sequence (items : List Node)
  /-- Keys and their values, in the order of the text. -/
  | mapping (entries : List (Node × Node))
  /-- A reference to the node with the given number. -/
  | alias (number : Nat)
  /-- The text could not be read from here on. -/
  | cut

namespace Node

/-- A key or a value that is not written. -/
def absent : Node :=
  .scalar ⟨"", .plain, none⟩

end Node

/-- What has been read of a text that holds at most one document. -/
structure Document where
  /-- The document; without one the text is empty. -/
  root : Option Node
  /-- For each number of a reference the places of its nodes, the latest first. -/
  places : List (Nat × Nat)
  /-- The nodes with a name, by their places. -/
  named : List (Nat × Node)
  parts : Nat
  /-- Why the text is not a document, if it is not. -/
  fault : Option SyntaxFault

/-! ## Reading nodes -/

/-- Tokens that are still to be read, and what the nodes before them have
defined. -/
structure NodeReader where
  tokens : List Token
  /-- Why there are no more tokens, if they do not go to the end. -/
  ending : SyntaxFault
  /-- The fault that reading has stopped at. -/
  stopped : Option SyntaxFault
  /-- Tag handles and what they stand for. -/
  handles : List (String × Tag)
  /-- The different names and the numbers of references to them. -/
  names : List (String × Nat)
  /-- For each number of a reference the places of its nodes, the latest first. -/
  places : List (Nat × Nat)
  /-- The nodes with a name, by their places. -/
  named : List (Nat × Node)
  parts : Nat

namespace NodeReader

/-- Stop at a fault.  Nothing is read any more. -/
def stop (reader : NodeReader) (fault : SyntaxFault) : NodeReader :=
  match reader.stopped with
  | some _ => reader
  | none => { reader with tokens := [], stopped := some fault }

/-- Stop at a fault, or for want of tokens. -/
def cutAt (reader : NodeReader) (fault : SyntaxFault) : Node × NodeReader :=
  (.cut, reader.stop (if reader.tokens.isEmpty then reader.ending else fault))

/-- Go on with other tokens. -/
def goOn (reader : NodeReader) (tokens : List Token) : NodeReader :=
  { reader with tokens }

/-- Count one more part. -/
def counted (reader : NodeReader) : NodeReader :=
  { reader with parts := reader.parts + 1 }

/-- Read the end of a list or a mapping; `tokens` follow it. -/
def endAt (reader : NodeReader) (tokens : List Token) : NodeReader :=
  (reader.goOn tokens).counted

/-- A node that is not written. -/
def absent (reader : NodeReader) : Node × NodeReader :=
  (.absent, reader.counted)

/-- What a tag stands for. -/
def resolveTag (reader : NodeReader) (handle : String) (rest : Tag) : Option Tag :=
  if handle.isEmpty then some rest
  else (reader.handles.lookup handle).map (· ++ rest)

/-- What may stand in front of a node: a name and a tag. -/
structure Properties where
  anchor : Option String
  tag : Option Tag

namespace Properties

/-- Whether there is neither a name nor a tag. -/
def isEmpty (properties : Properties) : Bool :=
  properties.anchor.isNone && properties.tag.isNone

/-- The name and the tag of a text that is written.  The tag that leaves open
what the text is says no more than no tag. -/
def ofWritten (properties : Properties) : Properties :=
  { properties with tag := properties.tag.filter (· != Tag.unspecific) }

end Properties

/-- Read a tag. -/
def tagged (reader : NodeReader) (handle : String) (rest : Tag) : Option Tag × NodeReader :=
  match reader.resolveTag handle rest with
  | some tag => (some tag, reader)
  | none => (none, reader.stop .undefinedHandle)

/-- Read the name and the tag of a node, in either order. -/
def properties (reader : NodeReader) : Properties × NodeReader :=
  match reader.tokens with
  | .anchor name :: .tag handle rest :: tokens =>
    let (tag, reader) := (reader.goOn tokens).tagged handle rest
    (⟨some name, tag⟩, reader)
  | .tag handle rest :: .anchor name :: tokens =>
    let (tag, reader) := (reader.goOn tokens).tagged handle rest
    (⟨some name, tag⟩, reader)
  | .anchor name :: tokens => (⟨some name, none⟩, reader.goOn tokens)
  | .tag handle rest :: tokens =>
    let (tag, reader) := (reader.goOn tokens).tagged handle rest
    (⟨none, tag⟩, reader)
  | _ => (⟨none, none⟩, reader)

/-- Begin a node.  If it has a name, it gets a number for references, and the
answer is its place; a name that is given again moves to its new node. -/
def enter (reader : NodeReader) (anchor : Option String) : Option Nat × NodeReader :=
  match anchor with
  | none => (none, reader.counted)
  | some name =>
    let number := reader.names.length
    let others := reader.names.filter (·.1 != name)
    (some reader.parts,
      { reader with
        names := (name, number) :: others
        places := (number, reader.parts) :: reader.places }.counted)

/-- Remember a node that has a name. -/
def leave (reader : NodeReader) (place : Option Nat) (node : Node) : Node × NodeReader :=
  match place with
  | none => (node, reader)
  | some place => (node, { reader with named := (place, node) :: reader.named })

/-- A text of the document. -/
def scalarNode (reader : NodeReader) (properties : Properties) (text : String) (style : Style) :
    Node × NodeReader :=
  let (place, reader) := reader.enter properties.anchor
  reader.leave place (.scalar ⟨text, style, properties.tag⟩)

/-! ## Which tokens end what -/

/-- Whether the next token satisfies a condition. -/
def nextIs (reader : NodeReader) (condition : Token → Bool) : Bool :=
  reader.tokens.head?.any condition

/-- Whether a key or a value of a block is not written. -/
def endsBlockPart : Token → Bool
  | .key | .value | .blockEnd => true
  | _ => false

/-- Whether an entry of a block of entries is not written. -/
def endsEntry : Token → Bool
  | .blockEntry | .blockEnd => true
  | _ => false

/-- Whether an entry at the indentation of a key is not written. -/
def endsIndentlessEntry (token : Token) : Bool :=
  endsEntry token || endsBlockPart token

/-- Whether a value inside brackets is not written; `close` closes them. -/
def endsPairValue (close : Token) (token : Token) : Bool :=
  token == .flowEntry || token == close

/-- Whether a key inside brackets is not written; `close` closes them. -/
def endsPairKey (close : Token) (token : Token) : Bool :=
  token == .value || endsPairValue close token

/-- Pass the comma in front of an item, which the first item does not have. -/
def separated (first : Bool) (reader : NodeReader) : Option NodeReader :=
  if first then some reader
  else
    match reader.tokens with
    | .flowEntry :: tokens => some (reader.goOn tokens)
    | _ => none

/-- A value that is not written; but nothing is known about it if there are no
more tokens. -/
def absentValue (reader : NodeReader) : Node × NodeReader :=
  if reader.tokens.isEmpty then reader.cutAt .expectedNode else reader.absent

/-- The list that ends at a fault. -/
def cutItems (reader : NodeReader) (fault : SyntaxFault) : List Node × NodeReader :=
  let (node, reader) := reader.cutAt fault
  ([node], reader)

/-- The mapping that ends at a fault. -/
def cutPairs (reader : NodeReader) (fault : SyntaxFault) : List (Node × Node) × NodeReader :=
  let (node, reader) := reader.cutAt fault
  ([(node, node)], reader)

/-! ## Nodes -/

mutual

/-- Read a node.  In a block, blocks may follow; `indentless` allows entries at
the indentation of the key in front. -/
def node (inBlock indentless : Bool) : Nat → NodeReader → Node × NodeReader
  | 0, reader => reader.cutAt .expectedNode
  | fuel + 1, reader =>
    match reader.tokens with
    | .alias name :: tokens =>
      match reader.names.lookup name with
      | some number => (.alias number, (reader.goOn tokens).counted)
      | none => reader.cutAt .unknownAlias
    | _ =>
      let (properties, reader) := reader.properties
      content inBlock indentless properties fuel reader

/-- Read what follows the name and the tag of a node. -/
def content (inBlock indentless : Bool) (properties : Properties) :
    Nat → NodeReader → Node × NodeReader
  | 0, reader => reader.cutAt .expectedNode
  | fuel + 1, reader =>
    match reader.tokens with
    | [] => reader.cutAt .expectedNode
    | .scalar text style :: tokens =>
      (reader.goOn tokens).scalarNode properties.ofWritten text style
    | token :: tokens =>
      if token == .flowSequenceStart then
        let (place, reader) := (reader.goOn tokens).enter properties.anchor
        let (items, reader) := flowItems true fuel reader
        reader.leave place (.sequence items)
      else if token == .flowMappingStart then
        let (place, reader) := (reader.goOn tokens).enter properties.anchor
        let (pairs, reader) := flowPairs true fuel reader
        reader.leave place (.mapping pairs)
      else if indentless && token == .blockEntry then
        let (place, reader) := reader.enter properties.anchor
        let (items, reader) := indentlessItems fuel reader
        reader.leave place (.sequence items)
      else if inBlock && token == .blockSequenceStart then
        let (place, reader) := (reader.goOn tokens).enter properties.anchor
        let (items, reader) := blockItems fuel reader
        reader.leave place (.sequence items)
      else if inBlock && token == .blockMappingStart then
        let (place, reader) := (reader.goOn tokens).enter properties.anchor
        let (pairs, reader) := blockPairs fuel reader
        reader.leave place (.mapping pairs)
      else if properties.isEmpty then reader.cutAt .expectedNode
      else reader.scalarNode properties "" .plain

/-- Read a node, unless the next token tells that it is not written. -/
def optional (inBlock indentless : Bool) (isOver : Token → Bool) :
    Nat → NodeReader → Node × NodeReader
  | 0, reader => reader.cutAt .expectedNode
  | fuel + 1, reader =>
    if reader.nextIs isOver then reader.absent else node inBlock indentless fuel reader

/-- Read the entries of a block of entries. -/
def blockItems : Nat → NodeReader → List Node × NodeReader
  | 0, reader => reader.cutItems .expectedEntry
  | fuel + 1, reader =>
    match reader.tokens with
    | .blockEntry :: tokens =>
      let (item, reader) := optional true false endsEntry fuel (reader.goOn tokens)
      let (items, reader) := blockItems fuel reader
      (item :: items, reader)
    | .blockEnd :: tokens => ([], reader.endAt tokens)
    | _ => reader.cutItems .expectedEntry

/-- Read the entries at the indentation of a key. -/
def indentlessItems : Nat → NodeReader → List Node × NodeReader
  | 0, reader => reader.cutItems .expectedEntry
  | fuel + 1, reader =>
    match reader.tokens with
    | .blockEntry :: tokens =>
      let (item, reader) := optional true false endsIndentlessEntry fuel (reader.goOn tokens)
      let (items, reader) := indentlessItems fuel reader
      (item :: items, reader)
    | [] => reader.cutItems .expectedEntry
    | _ => ([], reader.counted)

/-- Read the keys and values of a block. -/
def blockPairs : Nat → NodeReader → List (Node × Node) × NodeReader
  | 0, reader => reader.cutPairs .expectedKey
  | fuel + 1, reader =>
    match reader.tokens with
    | .key :: tokens =>
      let (key, reader) := optional true true endsBlockPart fuel (reader.goOn tokens)
      let (value, reader) := valueOf true endsBlockPart fuel reader
      let (pairs, reader) := blockPairs fuel reader
      ((key, value) :: pairs, reader)
    | .blockEnd :: tokens => ([], reader.endAt tokens)
    | _ => reader.cutPairs .expectedKey

/-- Read the value of a key, which begins with a colon. -/
def valueOf (inBlock : Bool) (isOver : Token → Bool) : Nat → NodeReader → Node × NodeReader
  | 0, reader => reader.cutAt .expectedNode
  | fuel + 1, reader =>
    match reader.tokens with
    | .value :: tokens => optional inBlock inBlock isOver fuel (reader.goOn tokens)
    | _ => reader.absentValue

/-- Read the items between square brackets.  An item may be a single pair. -/
def flowItems (first : Bool) : Nat → NodeReader → List Node × NodeReader
  | 0, reader => reader.cutItems .expectedSeparator
  | fuel + 1, reader =>
    if reader.nextIs (· == .flowSequenceEnd) then ([], reader.endAt (reader.tokens.drop 1))
    else
      match reader.separated first with
      | none => reader.cutItems .expectedSeparator
      | some reader =>
        match reader.tokens with
        | .flowSequenceEnd :: tokens => ([], reader.endAt tokens)
        | .key :: tokens =>
          let (pair, reader) := singlePair fuel (reader.goOn tokens).counted
          let (items, reader) := flowItems false fuel reader
          (pair :: items, reader)
        | _ =>
          let (item, reader) := node false false fuel reader
          let (items, reader) := flowItems false fuel reader
          (item :: items, reader)

/-- Read a pair between square brackets.  If its key is not written, the token
in its place is passed over.  The pair ends where another token follows. -/
def singlePair : Nat → NodeReader → Node × NodeReader
  | 0, reader => reader.cutAt .expectedNode
  | fuel + 1, reader =>
    let (key, reader) :=
      if reader.nextIs (endsPairKey .flowSequenceEnd) then
        (reader.goOn (reader.tokens.drop 1)).absent
      else node false false fuel reader
    let (value, reader) := valueOf false (endsPairValue .flowSequenceEnd) fuel reader
    let (rest, reader) :=
      if reader.tokens.isEmpty then reader.cutPairs .expectedNode else ([], reader.counted)
    (.mapping ((key, value) :: rest), reader)

/-- Read the pairs between braces. -/
def flowPairs (first : Bool) : Nat → NodeReader → List (Node × Node) × NodeReader
  | 0, reader => reader.cutPairs .expectedSeparator
  | fuel + 1, reader =>
    if reader.nextIs (· == .flowMappingEnd) then ([], reader.endAt (reader.tokens.drop 1))
    else
      match reader.separated first with
      | none => reader.cutPairs .expectedSeparator
      | some reader =>
        match reader.tokens with
        | .flowMappingEnd :: tokens => ([], reader.endAt tokens)
        | .key :: tokens =>
          let (key, reader) :=
            optional false false (endsPairKey .flowMappingEnd) fuel (reader.goOn tokens)
          let (value, reader) := valueOf false (endsPairValue .flowMappingEnd) fuel reader
          let (pairs, reader) := flowPairs false fuel reader
          ((key, value) :: pairs, reader)
        | _ =>
          let (key, reader) := node false false fuel reader
          let (value, reader) := reader.absentValue
          let (pairs, reader) := flowPairs false fuel reader
          ((key, value) :: pairs, reader)

end

/-! ## Documents -/

/-- Tag handles that need no declaration. -/
def standardHandles : List (String × Tag) :=
  [("!", Tag.unspecific), ("!!", Tag.standard "")]

/-- Before anything has been read. -/
def start (stream : TokenStream) : NodeReader where
  tokens := stream.tokens
  ending := stream.fault.getD .expectedNode
  stopped := none
  handles := standardHandles
  names := []
  places := []
  named := []
  parts := 0

/-- Read the declarations in front of a document.  A version is declared at
most once and is 1.1 or 1.2, and no handle is declared twice. -/
def declarations (declared : List String) (versioned : Bool) :
    List Token → NodeReader → NodeReader
  | .version major minor :: tokens, reader =>
    if versioned || major != 1 || !(minor == 1 || minor == 2) then reader.stop .badDirective
    else declarations declared true tokens (reader.goOn tokens)
  | .handle name expansion :: tokens, reader =>
    if declared.contains name then reader.stop .badDirective
    else
      declarations (name :: declared) versioned tokens
        { reader with tokens, handles := (name, expansion) :: reader.handles }
  | _, reader => reader

/-- Whether a document has no content. -/
def endsDocument : Token → Bool
  | .version _ _ | .handle _ _ | .documentStart | .documentEnd | .streamEnd => true
  | _ => false

/-- Read the content of a document. -/
def documentContent (reader : NodeReader) : Node × NodeReader :=
  node true false (6 * reader.tokens.length + 6) reader

/-- Read a document, if there is one.  A document that begins without a mark
has neither declarations nor an empty content. -/
def document (reader : NodeReader) : Option Node × NodeReader :=
  match reader.tokens with
  | .streamEnd :: _ => (none, reader)
  | .version _ _ :: _ | .handle _ _ :: _ | .documentStart :: _ =>
    let reader := declarations [] false reader.tokens reader
    match reader.tokens with
    | .documentStart :: tokens =>
      let reader := reader.goOn tokens
      let (root, reader) :=
        if reader.nextIs endsDocument then reader.absent else reader.documentContent
      (some root, reader)
    | _ =>
      let (root, reader) := reader.cutAt .expectedDocument
      (some root, reader)
  | _ =>
    let (root, reader) := reader.documentContent
    (some root, reader)

/-- Why a text is not a document, once its first document has been read.  What
follows the end of the document makes a second one, whatever it is. -/
def finalFault (reader : NodeReader) : Option SyntaxFault :=
  match reader.stopped, reader.tokens with
  | some fault, _ => some fault
  | none, [] => some reader.ending
  | none, tokens =>
    if (tokens.dropWhile (· == .documentEnd)).head? == some .streamEnd then none
    else some .severalDocuments

end NodeReader

namespace Document

/-- The document that tokens make up. -/
def ofTokens (stream : TokenStream) : Document :=
  let (root, reader) := (NodeReader.start stream).document
  ⟨root, reader.places, reader.named, reader.parts, reader.finalFault⟩

/-- The document that octets hold. -/
def ofOctets (octets : List UInt8) : Document :=
  ofTokens (TokenStream.ofSource (Source.ofOctets octets))

/-- The document that a text holds. -/
def ofText (text : String) : Document :=
  ofOctets (Utf8.encode text.toList)

/-- The node that references with the given number stand for. -/
def target (document : Document) (number : Nat) : Node :=
  ((document.places.lookup number).bind fun place => document.named.lookup place).getD .cut

end Document
end Yaml
end ChipEight
