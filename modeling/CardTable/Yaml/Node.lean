import CardTable.Yaml.Scan

namespace CardTable
namespace Yaml

/-!
# Nodes

A document is a tree of mappings and scalars.  Sequences are kept only as such:
nobody asks what is in them, and reading stops at the first one.

A text that makes no sense at some place still has a tree, which is broken
there.  Whoever goes through the tree in the order of the text learns of the
break when it is reached, and may have found fault with something before it.
-/

/-- A scalar with its style, and with its tag if it has one that says anything. -/
structure Scalar where
  text : List Char
  style : Style
  tag : Option (List Char) := none
  deriving DecidableEq, Repr

namespace Scalar

/-- The scalar that is meant where there is nothing. -/
def nothing : Scalar :=
  { text := [], style := .plain }

end Scalar

mutual

inductive Node where
  | scalar (scalar : Scalar)
  /-- Another mention of the node with this number. -/
  | alias (number : Nat)
  | sequence
  | mapping (entries : Entries)
  /-- The text makes no sense here. -/
  | broken

/-- The entries of a mapping in order. -/
inductive Entries where
  | done
  | broken
  | entry (key value : Node) (rest : Entries)

end

/-- A document with its numbered nodes. -/
structure Document where
  root : Node
  /-- The nodes that have anchors, the one that starts last first. -/
  anchored : List (Nat × Node)
  /-- The text makes sense to its end and holds no other document. -/
  complete : Bool

namespace Document

def find (document : Document) (number : Nat) : Node :=
  (document.anchored.lookup number).getD .broken

/-- The node that is meant: an alias stands for the node that it mentions. -/
def resolve (document : Document) : Node -> Node
  | .alias number => document.find number
  | node => node

end Document

/-- Where building a tree from tokens stands. -/
structure Builder where
  /-- The tokens that are left.  None are left once the text made no sense. -/
  tokens : List Token
  /-- What the handles of tags stand for. -/
  handles : List (List Char × List Char) := []
  /-- The names of anchors with their numbers, each name once. -/
  names : List (List Char × Nat) := []
  anchored : List (Nat × Node) := []

namespace Builder

def skip (builder : Builder) : Builder :=
  { builder with tokens := builder.tokens.drop 1 }

def stop (builder : Builder) : Builder :=
  { builder with tokens := [] }

/-- Give a name the next number: the count of the names known so far.  The name
gives up the number that it had. -/
def name (builder : Builder) (anchor : List Char) : Nat × Builder :=
  let number := builder.names.length
  (number, { builder with
    names := (anchor, number) :: builder.names.filter (·.1 ≠ anchor) })

/-- Note the node that an anchor belongs to.  It comes behind the first `before`
nodes, and so before the nodes inside it. -/
def note (builder : Builder) (number : Option Nat) (before : Nat) (node : Node) : Builder :=
  match number with
  | some number =>
      let inner := builder.anchored.length - before
      { builder with
        anchored := builder.anchored.take inner ++ (number, node) :: builder.anchored.drop inner }
  | none => builder

/-- The properties of a node: a number if it has an anchor, and a tag. -/
structure Properties where
  number : Option Nat := none
  tag : Option (List Char) := none

/-- The tag that a handle and a suffix make.  A tag without a handle is its
suffix. -/
def fullTag? (builder : Builder) (handle suffix : List Char) : Option (List Char) :=
  if handle.isEmpty then some suffix
  else (builder.handles.lookup handle).map (· ++ suffix)

def readAnchor (builder : Builder) (properties : Properties) : Properties × Builder :=
  match builder.tokens with
  | .anchor name :: _ =>
      let (number, named) := builder.name name
      ({ properties with number := some number }, named.skip)
  | _ => (properties, builder)

/-- Read a tag if there is one.  Its handle has to be known. -/
def readTag (builder : Builder) (properties : Properties) : Properties × Builder :=
  match builder.tokens with
  | .tag handle suffix :: _ =>
      match builder.fullTag? handle suffix with
      | some tag => ({ properties with tag := some tag }, builder.skip)
      | none => (properties, builder.stop)
  | _ => (properties, builder)

/-- Read the properties of a node, in either order. -/
def readProperties (builder : Builder) : Properties × Builder :=
  match builder.tokens with
  | .anchor _ :: _ =>
      let (properties, rest) := builder.readAnchor {}
      rest.readTag properties
  | _ =>
      let (properties, rest) := builder.readTag {}
      rest.readAnchor properties

/-- The scalar of a token.  The tag that is an exclamation mark alone says
nothing about it. -/
def scalarNode (properties : Properties) (text : List Char) (style : Style) : Node :=
  .scalar { text := text, style := style, tag := properties.tag.filter (· ≠ ['!']) }

mutual

/-- Read a node.  Outside flow collections it may be a block; as the key or value
of a block mapping it may be a sequence without further indentation. -/
def readNode (inBlock inMapping : Bool) (builder : Builder) : Nat -> Node × Builder
  | 0 => (.broken, builder.stop)
  | fuel + 1 =>
      match builder.tokens with
      | .alias name :: _ =>
          match builder.names.lookup name with
          | some number => (.alias number, builder.skip)
          | none => (.broken, builder.stop)
      | _ =>
          let (properties, rest) := builder.readProperties
          let (node, done) := readContent inBlock inMapping properties rest fuel
          (node, done.note properties.number rest.anchored.length node)

def readContent (inBlock inMapping : Bool) (properties : Properties) (builder : Builder) :
    Nat -> Node × Builder
  | 0 => (.broken, builder.stop)
  | fuel + 1 =>
      let unsaid := properties.number.isNone && properties.tag.isNone
      match builder.tokens with
      | [] => (.broken, builder.stop)
      | .scalar text style :: _ => (scalarNode properties text style, builder.skip)
      | .flowSequenceStart :: _ => (.sequence, builder.stop)
      | .flowMappingStart :: _ =>
          let (entries, rest) := readFlowEntries true builder.skip fuel
          (.mapping entries, rest)
      | token :: _ =>
          if inMapping && token = .blockEntry then (.sequence, builder.stop)
          else if inBlock && token = .blockSequenceStart then (.sequence, builder.stop)
          else if inBlock && token = .blockMappingStart then
            let (entries, rest) := readBlockEntries builder.skip fuel
            (.mapping entries, rest)
          else if unsaid then (.broken, builder.stop)
          else (.scalar { Scalar.nothing with tag := properties.tag }, builder)

/-- Read the key or value of a block mapping.  There may be none. -/
def readBlockPart (builder : Builder) : Nat -> Node × Builder
  | 0 => (.broken, builder.stop)
  | fuel + 1 =>
      match builder.tokens with
      | [] => (.broken, builder.stop)
      | .key :: _ => (.scalar .nothing, builder)
      | .value :: _ => (.scalar .nothing, builder)
      | .blockEnd :: _ => (.scalar .nothing, builder)
      | _ => readNode true true builder fuel

def readBlockEntries (builder : Builder) : Nat -> Entries × Builder
  | 0 => (.broken, builder.stop)
  | fuel + 1 =>
      match builder.tokens with
      | .blockEnd :: _ => (.done, builder.skip)
      | .key :: _ =>
          let (key, behindKey) := readBlockPart builder.skip fuel
          let (value, behindValue) :=
            match behindKey.tokens with
            | [] => (.broken, behindKey.stop)
            | .value :: _ => readBlockPart behindKey.skip fuel
            | _ => (.scalar .nothing, behindKey)
          let (entries, rest) := readBlockEntries behindValue fuel
          (.entry key value entries, rest)
      | _ => (.broken, builder.stop)

/-- Read the key of an entry of a flow mapping, and whether a value may follow.
Without a question mark or colon it may not. -/
def readFlowKey (builder : Builder) : Nat -> Node × Bool × Builder
  | 0 => (.broken, false, builder.stop)
  | fuel + 1 =>
      match builder.tokens with
      | .key :: _ =>
          let behind := builder.skip
          match behind.tokens with
          | [] => (.broken, false, behind.stop)
          | .value :: _ => (.scalar .nothing, true, behind)
          | .flowEntry :: _ => (.scalar .nothing, true, behind)
          | .flowMappingEnd :: _ => (.scalar .nothing, true, behind)
          | _ =>
              let (key, rest) := readNode false false behind fuel
              (key, true, rest)
      | _ =>
          let (key, rest) := readNode false false builder fuel
          (key, false, rest)

/-- Read the value of an entry of a flow mapping.  There may be none. -/
def readFlowValue (builder : Builder) : Nat -> Node × Builder
  | 0 => (.broken, builder.stop)
  | fuel + 1 =>
      match builder.tokens with
      | [] => (.broken, builder.stop)
      | .value :: _ =>
          let behind := builder.skip
          match behind.tokens with
          | [] => (.broken, behind.stop)
          | .flowEntry :: _ => (.scalar .nothing, behind)
          | .flowMappingEnd :: _ => (.scalar .nothing, behind)
          | _ => readNode false false behind fuel
      | _ => (.scalar .nothing, builder)

/-- Read the entries of a flow mapping up to its end.  Each but the first has a
comma before it, and a comma may also come last. -/
def readFlowEntries (first : Bool) (builder : Builder) : Nat -> Entries × Builder
  | 0 => (.broken, builder.stop)
  | fuel + 1 =>
      match first, builder.tokens with
      | _, [] => (.broken, builder.stop)
      | _, .flowMappingEnd :: _ => (.done, builder.skip)
      | false, .flowEntry :: .flowMappingEnd :: _ => (.done, builder.skip.skip)
      | false, .flowEntry :: _ => readFlowEntry builder.skip fuel
      | true, _ => readFlowEntry builder fuel
      | false, _ => (.broken, builder.stop)

/-- Read one entry of a flow mapping, and the entries behind it. -/
def readFlowEntry (builder : Builder) : Nat -> Entries × Builder
  | 0 => (.broken, builder.stop)
  | fuel + 1 =>
      match builder.tokens with
      | [] => (.broken, builder.stop)
      | _ =>
          let (key, mayHaveValue, behindKey) := readFlowKey builder fuel
          let (value, behindValue) :=
            if mayHaveValue then readFlowValue behindKey fuel
            else if behindKey.tokens.isEmpty then (.broken, behindKey)
            else (.scalar .nothing, behindKey)
          let (entries, rest) := readFlowEntries false behindValue fuel
          (.entry key value entries, rest)

end

/-! ## Documents -/

/-- What handles stand for unless a directive says otherwise. -/
def standardHandles : List (List Char × List Char) :=
  [(['!'], ['!']), (['!', '!'], "tag:yaml.org,2002:".toList)]

/-- Read directives up to the start of the document.  A version may be given
once, and each handle once. -/
def readDirectives (versioned : Bool) (handles : List (List Char × List Char)) :
    List Token -> Option (List (List Char × List Char) × List Token)
  | .versionDirective major minor :: rest =>
      if versioned || major ≠ 1 || (minor ≠ 1 && minor ≠ 2) then none
      else readDirectives true handles rest
  | .tagDirective handle stands :: rest =>
      if (handles.lookup handle).isSome then none
      else readDirectives versioned (handles ++ [(handle, stands)]) rest
  | .documentStart :: rest => some (handles ++ standardHandles, rest)
  | _ => none

/-- Only markers of ended documents are left. -/
def isOver : List Token -> Bool
  | [.streamEnd] => true
  | .documentEnd :: rest => isOver rest
  | _ => false

/-- The document whose root starts here. -/
def readRoot (builder : Builder) : Document :=
  let (root, rest) := readNode true false builder (8 * builder.tokens.length + 8)
  { root := root, anchored := rest.anchored, complete := isOver rest.tokens }

def emptyDocument (tokens : List Token) : Document :=
  { root := .scalar .nothing, anchored := [], complete := isOver tokens }

/-- The document behind its start marker.  It may be empty. -/
def readExplicit (handles : List (List Char × List Char)) (tokens : List Token) : Document :=
  match tokens with
  | .versionDirective _ _ :: _ => emptyDocument tokens
  | .tagDirective _ _ :: _ => emptyDocument tokens
  | .documentStart :: _ => emptyDocument tokens
  | .documentEnd :: _ => emptyDocument tokens
  | .streamEnd :: _ => emptyDocument tokens
  | _ => readRoot { tokens := tokens, handles := handles }

/-- The document that the tokens behind the start of the stream make up. -/
def readDocument (tokens : List Token) : Document :=
  let broken : Document := { root := .broken, anchored := [], complete := false }
  let explicit := fun _ : Unit =>
    match readDirectives false [] tokens with
    | some (handles, rest) => readExplicit handles rest
    | none => broken
  match tokens with
  | [] => broken
  | .streamEnd :: _ => emptyDocument tokens
  | .versionDirective _ _ :: _ => explicit ()
  | .tagDirective _ _ :: _ => explicit ()
  | .documentStart :: _ => explicit ()
  | _ => readRoot { tokens := tokens, handles := standardHandles }

end Builder

def Document.read (text : String) : Document :=
  Builder.readDocument ((tokens text).drop 1)

end Yaml
end CardTable
