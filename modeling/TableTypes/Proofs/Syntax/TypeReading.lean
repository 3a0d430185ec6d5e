import TableTypes.Proofs.Syntax.TypeLexemes

/-! # Types are told apart by their text

The lexemes of a type are read with a stack of what is open. A reader does not see how the members
of a union were grouped, so it gives the alternatives of the type: those of all members of a union,
and of any other type the type itself. Reading therefore gives back a type in which nested unions
are flattened and unions of one member are replaced by it, and types with the same text agree up
to that.
-/

namespace TableTypes.Syntax

/-- The only alternative, or the union of all. -/
def oneOf : List TypeNode → TypeNode
  | [type] => type
  | types => .union types

mutual

/-- The alternatives of a type. Within each, the parts of the type are in their normal form. -/
def TypeNode.alternatives : TypeNode → List TypeNode
  | .keyword word => [.keyword word]
  | .reference name arguments => [.reference name (normalTypes arguments)]
  | .array element => [.array (oneOf element.alternatives)]
  | .union types => alternativesOf types
  | .literal members => [.literal (normalMembers members)]

def alternativesOf : List TypeNode → List TypeNode
  | [] => []
  | type :: rest => type.alternatives ++ alternativesOf rest

def normalTypes : List TypeNode → List TypeNode
  | [] => []
  | type :: rest => oneOf type.alternatives :: normalTypes rest

def Member.normal : Member → Member
  | .property name type optional => .property name (oneOf type.alternatives) optional
  | .index parameter parameterType type =>
    .index parameter (oneOf parameterType.alternatives) (oneOf type.alternatives)

def normalMembers : List Member → List Member
  | [] => []
  | member :: rest => member.normal :: normalMembers rest

end

/-- The type with nested unions flattened and every union of one member replaced by the member. -/
def TypeNode.normal (type : TypeNode) : TypeNode :=
  oneOf type.alternatives

/-- What is open while a type is read, with what was read in it before the part being read. -/
inductive Frame where
  /-- Nothing but the text itself. -/
  | text
  | group
  | brackets
  | arguments (name : String) (before : List TypeNode)
  | members (before : List Member)
  | property (name : String) (optional : Bool)
  /-- An index signature whose parameter comes next. -/
  | parameter
  | parameterType (parameter : String)
  | indexed (parameter : String) (parameterType : TypeNode)

/-- What is open, and the alternatives that were read of the type being read. -/
abbrev Level := Frame × List TypeNode

section Reader

/-- The type that a word stands for. -/
def wordType (word : String) : TypeNode :=
  if word ∈ keywords then .keyword word else .reference word []

def takeName (name : String) : List Level → List Level
  | (.members before, read) :: below =>
    (.property name false, []) :: (.members before, read) :: below
  | levels => levels

/-- A word names a property or a parameter where one is due, and else a type. -/
def takeWord (word : String) : List Level → List Level
  | (.members before, read) :: below => takeName word ((.members before, read) :: below)
  | (.parameter, _) :: below => (.parameterType word, []) :: below
  | (frame, read) :: below => (frame, read ++ [wordType word]) :: below
  | [] => []

/-- A pair of brackets makes an array of the last alternative. -/
def wrapLast (read : List TypeNode) : List TypeNode :=
  read.dropLast ++ (read.getLast?.map .array).toList

def close : List Level → List Level
  | (.group, read) :: (frame, outer) :: below => (frame, outer ++ [oneOf read]) :: below
  | (.brackets, _) :: (frame, outer) :: below => (frame, wrapLast outer) :: below
  | (.arguments name before, read) :: (frame, outer) :: below =>
    (frame, outer ++ [.reference name (before ++ [oneOf read])]) :: below
  | (.members before, _) :: (frame, outer) :: below => (frame, outer ++ [.literal before]) :: below
  | (.parameterType parameter, read) :: below => (.indexed parameter (oneOf read), []) :: below
  | levels => levels

/-- An argument or a member is complete. -/
def complete : List Level → List Level
  | (.arguments name before, read) :: below =>
    (.arguments name (before ++ [oneOf read]), []) :: below
  | (.property name optional, read) :: (.members before, outer) :: below =>
    (.members (before ++ [.property name (oneOf read) optional]), outer) :: below
  | (.indexed parameter parameterType, read) :: (.members before, outer) :: below =>
    (.members (before ++ [.index parameter parameterType (oneOf read)]), outer) :: below
  | levels => levels

/-- The last alternative turns out to be a name with arguments. -/
def openArguments : List Level → List Level
  | (frame, read) :: below =>
    match read.getLast? with
    | some (.reference name _) => (.arguments name [], []) :: (frame, read.dropLast) :: below
    | _ => (frame, read) :: below
  | [] => []

def openBrackets : List Level → List Level
  | (.members before, read) :: below => (.parameter, []) :: (.members before, read) :: below
  | levels => (.brackets, []) :: levels

def makeOptional : List Level → List Level
  | (.property name _, read) :: below => (.property name true, read) :: below
  | levels => levels

/-- Read one lexeme. Bars and colons tell a reader nothing new. -/
def takeLexeme (levels : List Level) : Lexeme → List Level
  | .word word => takeWord word levels
  | .quoted name => takeName name levels
  | .mark '(' => (.group, []) :: levels
  | .mark '\x7b' => (.members [], []) :: levels
  | .mark '<' => openArguments levels
  | .mark '[' => openBrackets levels
  | .mark ')' | .mark ']' | .mark '>' | .mark '\x7d' => close levels
  | .mark ',' | .mark ';' => complete levels
  | .mark '?' => makeOptional levels
  | .mark _ => levels

/-- A type may stand in the frame. -/
def Frame.takesType : Frame → Prop
  | .brackets | .members _ | .parameter => False
  | _ => True

end Reader

section Steps

variable {frame : Frame} {read : List TypeNode} {below : List Level}

theorem takeWord_type (hframe : frame.takesType) (word : String) :
    takeWord word ((frame, read) :: below) = (frame, read ++ [wordType word]) :: below := by
  cases frame with
  | brackets | members | parameter => exact hframe.elim
  | _ => rfl

theorem openBrackets_type (hframe : frame.takesType) :
    openBrackets ((frame, read) :: below) = (.brackets, []) :: (frame, read) :: below := by
  cases frame with
  | brackets | members | parameter => exact hframe.elim
  | _ => rfl

theorem wrapLast_append (read : List TypeNode) (type : TypeNode) :
    wrapLast (read ++ [type]) = read ++ [.array type] := by
  simp [wrapLast]

theorem take_brackets (hframe : frame.takesType) (type : TypeNode) :
    [Lexeme.mark '[', .mark ']'].foldl takeLexeme ((frame, read ++ [type]) :: below) =
      (frame, read ++ [.array type]) :: below := by
  change close (openBrackets ((frame, read ++ [type]) :: below)) = _
  rw [openBrackets_type hframe, ← wrapLast_append]
  rfl

theorem take_arguments (name : String) :
    takeLexeme ((frame, read ++ [.reference name []]) :: below) (.mark '<') =
      (.arguments name [], []) :: (frame, read) :: below := by
  change openArguments ((frame, read ++ [.reference name []]) :: below) = _
  simp [openArguments]

theorem take_nameLexeme (name : String) (before : List Member) :
    takeLexeme ((.members before, read) :: below) (nameLexeme name) =
      (.property name false, []) :: (.members before, read) :: below := by
  unfold nameLexeme
  split <;> rfl

theorem alternatives_of_not_union {type : TypeNode} (htype : ¬ type.isUnion) :
    type.alternatives = [type.normal] := by
  cases type with
  | union types => exact absurd rfl htype
  | _ => rfl

end Steps

section Reading

mutual

theorem TypeNode.read_lexemes : (type : TypeNode) → type.Named → (frame : Frame) →
    frame.takesType → (read : List TypeNode) → (below : List Level) →
      type.lexemes.foldl takeLexeme ((frame, read) :: below) =
        (frame, read ++ type.alternatives) :: below
  | .keyword word, hnamed, frame, hframe, read, below => by
    have hword : word ∈ keywords := hnamed
    change takeWord word _ = _
    rw [takeWord_type hframe, wordType, if_pos hword]
    rfl
  | .reference name [], hnamed, frame, hframe, read, below => by
    change takeWord name _ = _
    rw [takeWord_type hframe, wordType, if_neg hnamed.2.1]
    rfl
  | .reference name (first :: rest), hnamed, frame, hframe, read, below => by
    have harguments := read_arguments (first :: rest) (List.cons_ne_nil _ _) hnamed.2.2 name []
      frame read below
    rw [TypeNode.lexemes, List.cons_append, List.cons_append, List.foldl_cons, List.foldl_cons]
    change List.foldl _ (takeLexeme (takeWord name _) _) _ = _
    rw [takeWord_type hframe, wordType, if_neg hnamed.2.1, take_arguments, harguments]
    rfl
  | .array element, hnamed, frame, hframe, read, below => by
    rw [TypeNode.lexemes]
    split
    · have hgroup := element.read_lexemes hnamed .group trivial [] ((frame, read) :: below)
      rw [List.cons_append, List.foldl_cons, List.foldl_append]
      change List.foldl _ (List.foldl _ ((.group, []) :: (frame, read) :: below) _) _ = _
      rw [hgroup]
      exact take_brackets hframe (oneOf element.alternatives)
    · rename_i hunion
      have helement := element.read_lexemes hnamed frame hframe read below
      rw [List.foldl_append, helement, alternatives_of_not_union hunion, take_brackets hframe]
      rfl
  | .union types, hnamed, frame, hframe, read, below => by
    exact read_alternatives types hnamed frame hframe read below
  | .literal members, hnamed, frame, hframe, read, below => by
    have hmembers := read_members members hnamed [] [] ((frame, read) :: below)
    rw [TypeNode.lexemes, List.cons_append, List.foldl_cons, List.foldl_append]
    change List.foldl _ (List.foldl _ ((.members [], []) :: (frame, read) :: below) _) _ = _
    rw [hmembers]
    rfl

theorem read_alternatives : (types : List TypeNode) → NamedTypes types → (frame : Frame) →
    frame.takesType → (read : List TypeNode) → (below : List Level) →
      (separated '|' types).foldl takeLexeme ((frame, read) :: below) =
        (frame, read ++ alternativesOf types) :: below
  | [], _, frame, _, read, below => by
    rw [alternativesOf, List.append_nil]
    rfl
  | [type], hnamed, frame, hframe, read, below => by
    rw [alternativesOf, alternativesOf, List.append_nil]
    exact type.read_lexemes hnamed.1 frame hframe read below
  | type :: second :: rest, hnamed, frame, hframe, read, below => by
    have htype := type.read_lexemes hnamed.1 frame hframe read below
    have hrest := read_alternatives (second :: rest) hnamed.2 frame hframe
      (read ++ type.alternatives) below
    rw [separated, List.foldl_append, htype, List.foldl_cons]
    change List.foldl _ ((frame, read ++ type.alternatives) :: below) _ = _
    rw [hrest, List.append_assoc]
    rfl

theorem read_arguments : (types : List TypeNode) → types ≠ [] → NamedTypes types →
    (name : String) → (before : List TypeNode) → (frame : Frame) → (read : List TypeNode) →
    (below : List Level) →
      (separated ',' types ++ [Lexeme.mark '>']).foldl takeLexeme
          ((.arguments name before, []) :: (frame, read) :: below) =
        (frame, read ++ [.reference name (before ++ normalTypes types)]) :: below
  | [], hne, _, _, _, _, _, _ => absurd rfl hne
  | [type], _, hnamed, name, before, frame, read, below => by
    have htype := type.read_lexemes hnamed.1 (.arguments name before) trivial []
      ((frame, read) :: below)
    rw [separated, List.foldl_append, htype]
    rfl
  | type :: second :: rest, _, hnamed, name, before, frame, read, below => by
    have htype := type.read_lexemes hnamed.1 (.arguments name before) trivial []
      ((frame, read) :: below)
    have hrest := read_arguments (second :: rest) (List.cons_ne_nil _ _) hnamed.2 name
      (before ++ [oneOf type.alternatives]) frame read below
    rw [separated, List.append_assoc, List.foldl_append, htype, List.cons_append, List.foldl_cons]
    change List.foldl _ ((.arguments name (before ++ [oneOf type.alternatives]), []) ::
      (frame, read) :: below) _ = _
    rw [hrest, List.append_assoc]
    rfl

theorem Member.read_lexemes : (member : Member) → member.Named → (before : List Member) →
    (read : List TypeNode) → (below : List Level) →
      (member.lexemes ++ [Lexeme.mark ';']).foldl takeLexeme ((.members before, read) :: below) =
        (.members (before ++ [member.normal]), read) :: below
  | .property name type optional, hnamed, before, read, below => by
    have htype := type.read_lexemes hnamed (.property name optional) trivial []
      ((.members before, read) :: below)
    have hopened : (nameLexeme name :: if optional then [Lexeme.mark '?'] else []).foldl takeLexeme
        ((.members before, read) :: below) =
          (.property name optional, []) :: (.members before, read) :: below := by
      rw [List.foldl_cons, take_nameLexeme]
      cases optional <;> rfl
    rw [Member.lexemes, List.append_assoc, List.foldl_append, hopened, List.cons_append,
      List.foldl_cons, List.foldl_append]
    change List.foldl _ (List.foldl _ ((.property name optional, []) :: (.members before, read) ::
      below) _) _ = _
    rw [htype]
    rfl
  | .index parameter parameterType type, hnamed, before, read, below => by
    have hparameterType := parameterType.read_lexemes hnamed.2.1 (.parameterType parameter) trivial
      [] ((.members before, read) :: below)
    let indexed : Frame := .indexed parameter (oneOf parameterType.alternatives)
    have htype := type.read_lexemes hnamed.2.2 indexed trivial [] ((.members before, read) :: below)
    have hlexemes : (Member.index parameter parameterType type).lexemes ++ [Lexeme.mark ';'] =
        .mark '[' :: .word parameter :: .mark ':' :: (parameterType.lexemes ++
          .mark ']' :: .mark ':' :: (type.lexemes ++ [.mark ';'])) := by
      simp [Member.lexemes]
    rw [hlexemes, List.foldl_cons, List.foldl_cons, List.foldl_cons, List.foldl_append]
    change List.foldl _ (List.foldl _ ((.parameterType parameter, []) :: (.members before, read) ::
      below) _) _ = _
    rw [hparameterType, List.foldl_cons, List.foldl_cons, List.foldl_append]
    change List.foldl _ (List.foldl _ ((indexed, []) :: (.members before, read) :: below) _) _ = _
    rw [htype]
    rfl

theorem read_members : (members : List Member) → NamedMembers members → (before : List Member) →
    (read : List TypeNode) → (below : List Level) →
      (memberLexemes members).foldl takeLexeme ((.members before, read) :: below) =
        (.members (before ++ normalMembers members), read) :: below
  | [], _, before, read, below => by
    rw [normalMembers, List.append_nil]
    rfl
  | member :: rest, hnamed, before, read, below => by
    have hmember := member.read_lexemes hnamed.1 before read below
    have hrest := read_members rest hnamed.2 (before ++ [member.normal]) read below
    rw [memberLexemes, List.append_cons, List.foldl_append, hmember, hrest, List.append_assoc]
    rfl

end

end Reading

section Flat

mutual

/-- No union is a member of a union, and none has exactly one member. -/
def TypeNode.Flat : TypeNode → Prop
  | .keyword _ => True
  | .reference _ arguments => FlatTypes arguments
  | .array element => element.Flat
  | .union types => types.length ≠ 1 ∧ (∀ type ∈ types, ¬ type.isUnion) ∧ FlatTypes types
  | .literal members => FlatMembers members

def FlatTypes : List TypeNode → Prop
  | [] => True
  | type :: rest => type.Flat ∧ FlatTypes rest

def Member.Flat : Member → Prop
  | .property _ type _ => type.Flat
  | .index _ parameterType type => parameterType.Flat ∧ type.Flat

def FlatMembers : List Member → Prop
  | [] => True
  | member :: rest => member.Flat ∧ FlatMembers rest

end

theorem oneOf_of_length {types : List TypeNode} (hlength : types.length ≠ 1) :
    oneOf types = .union types := by
  cases types with
  | nil => rfl
  | cons type rest =>
      cases rest with
      | nil => exact absurd rfl hlength
      | cons second rest => rfl

mutual

/-- A type without anything to flatten is its own normal form. -/
theorem TypeNode.normal_of_flat : (type : TypeNode) → type.Flat → type.normal = type
  | .keyword word, _ => rfl
  | .reference name arguments, hflat => by
    have harguments := normalTypes_of_flat arguments hflat
    rw [TypeNode.normal, TypeNode.alternatives, harguments, oneOf]
  | .array element, hflat => congrArg TypeNode.array (element.normal_of_flat hflat)
  | .union types, hflat => by
    have htypes := alternativesOf_of_flat types hflat.2.1 hflat.2.2
    rw [TypeNode.normal, TypeNode.alternatives, htypes, oneOf_of_length hflat.1]
  | .literal members, hflat => by
    have hmembers := normalMembers_of_flat members hflat
    rw [TypeNode.normal, TypeNode.alternatives, hmembers, oneOf]

theorem alternativesOf_of_flat : (types : List TypeNode) → (∀ type ∈ types, ¬ type.isUnion) →
    FlatTypes types → alternativesOf types = types
  | [], _, _ => rfl
  | type :: rest, hmembers, hflat => by
    have htype := type.normal_of_flat hflat.1
    have hrest := alternativesOf_of_flat rest
      (fun other hother => hmembers other (List.mem_cons_of_mem _ hother)) hflat.2
    rw [alternativesOf, alternatives_of_not_union (hmembers type List.mem_cons_self), htype, hrest]
    rfl

theorem normalTypes_of_flat : (types : List TypeNode) → FlatTypes types →
    normalTypes types = types
  | [], _ => rfl
  | type :: rest, hflat => congrArg₂ List.cons (type.normal_of_flat hflat.1)
      (normalTypes_of_flat rest hflat.2)

theorem Member.normal_of_flat : (member : Member) → member.Flat → member.normal = member
  | .property name type optional, hflat =>
    congrArg (Member.property name · optional) (type.normal_of_flat hflat)
  | .index parameter parameterType type, hflat =>
    congrArg₂ (Member.index parameter) (parameterType.normal_of_flat hflat.1)
      (type.normal_of_flat hflat.2)

theorem normalMembers_of_flat : (members : List Member) → FlatMembers members →
    normalMembers members = members
  | [], _ => rfl
  | member :: rest, hflat => congrArg₂ List.cons (member.normal_of_flat hflat.1)
      (normalMembers_of_flat rest hflat.2)

end

end Flat

section Texts

variable {first second : TypeNode} {unit : String} {depth : Nat}

/-- The text of a type gives its lexemes, and these give its alternatives. -/
theorem alternatives_eq_of_print_eq (hunit : Blank unit) (hfirst : first.Named)
    (hsecond : second.Named) (hprint : first.print unit depth = second.print unit depth) :
    first.alternatives = second.alternatives := by
  have hlexemes : first.lexemes ++ lexemes [] = second.lexemes ++ lexemes [] := by
    rw [← first.lexemes_print hunit depth hfirst [] endsWord_nil,
      ← second.lexemes_print hunit depth hsecond [] endsWord_nil, hprint]
  have hread := congrArg (List.foldl takeLexeme [(.text, [])]) (List.append_cancel_right hlexemes)
  rw [first.read_lexemes hfirst .text trivial, second.read_lexemes hsecond .text trivial] at hread
  exact congrArg Prod.snd (List.cons.inj hread).1

theorem blank_indent : Blank ({} : Layout).indent := by
  have hspaces : ({} : Layout).indent.toList = List.replicate 4 ' ' := rfl
  intro c hc
  rw [hspaces] at hc
  exact List.eq_of_mem_replicate hc

/-- Types with the same text are equal once nested unions are flattened and every union of one
member is replaced by the member. -/
theorem print_determines_type {first second : TypeNode} (hfirst : first.Named)
    (hsecond : second.Named) {depth : Nat}
    (hprint : first.print ({} : Layout).indent depth = second.print ({} : Layout).indent depth) :
    first.normal = second.normal := by
  have halternatives := alternatives_eq_of_print_eq blank_indent hfirst hsecond hprint
  exact congrArg oneOf halternatives

/-- A union that is grouped in two ways, in an array behind a quoted property name. Flattened, both
are the union that is not grouped. -/
theorem type_of_regrouped_union :
    let grouped (types : List TypeNode) : TypeNode :=
      .reference "Row" [.literal [.property "order items" (.array (.union types)) true]]
    let first := grouped [.union [.keyword "number", .reference "Tag" []], .keyword "null"]
    let second := grouped [.keyword "number", .union [.reference "Tag" [], .keyword "null"]]
    let flat := grouped [.keyword "number", .reference "Tag" [], .keyword "null"]
    first.Named ∧ second.Named ∧ first.print ({} : Layout).indent 1 =
      second.print ({} : Layout).indent 1 ∧ first.normal = second.normal ∧ first.normal = flat := by
  intro grouped first second flat
  have hnamed : isIdentifier "Row" ∧ "Row" ∉ keywords ∧ isIdentifier "Tag" ∧ "Tag" ∉ keywords ∧
      "number" ∈ keywords ∧ "null" ∈ keywords := by
    decide
  obtain ⟨hrow, hrow', htag, htag', hnumber, hnull⟩ := hnamed
  have hfirst : first.Named := ⟨hrow, hrow', ⟨⟨⟨hnumber, ⟨htag, htag', trivial⟩, trivial⟩, hnull,
    trivial⟩, trivial⟩, trivial⟩
  have hsecond : second.Named := ⟨hrow, hrow', ⟨⟨hnumber, ⟨⟨htag, htag', trivial⟩, hnull, trivial⟩,
    trivial⟩, trivial⟩, trivial⟩
  have hthird : flat.Named := ⟨hrow, hrow', ⟨⟨hnumber, ⟨htag, htag', trivial⟩, hnull, trivial⟩,
    trivial⟩, trivial⟩
  have hprint : first.print ({} : Layout).indent 1 = second.print ({} : Layout).indent 1 := by
    decide +kernel
  have hprint' : first.print ({} : Layout).indent 1 = flat.print ({} : Layout).indent 1 := by
    decide +kernel
  have hflat : flat.Flat := by simp [flat, grouped, TypeNode.Flat, FlatTypes, FlatMembers,
    Member.Flat, TypeNode.isUnion]
  refine ⟨hfirst, hsecond, hprint, print_determines_type hfirst hsecond hprint, ?_⟩
  rw [print_determines_type hfirst hthird hprint', flat.normal_of_flat hflat]

end Texts

end TableTypes.Syntax
