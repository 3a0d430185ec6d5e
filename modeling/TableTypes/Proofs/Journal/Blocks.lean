import TableTypes.Proofs.Journal.Lines
import TableTypes.Proofs.Options.Calls
import TableTypes.Proofs.Work

/-! # Blocks of the log

A block gives values to named fields of the position, and any number of further fields in a map.
What is read inside blocks is settled by what they were given: a further field by the innermost
block that has it, a named field by the innermost block that sets it, and the further fields come
first. So a block can give a named field in vain, if a block around it gives the same key as a
further field; in all other cases the innermost block that gives a key is the one that counts.
Work inside blocks can fail, and blocks can be refused, but the blocks that are open around it
stay as they are.
-/

namespace TableTypes.Journal

/-- The named fields of a position. -/
def fieldNames : List String := ["run_id", "phase", "entity", "builder"]

/-- What a block is given: values by names, each name once, and likewise in a map of further
fields, whose keys are texts. -/
structure Given where
  fields : List (String × Value)
  nodup : (fields.map (·.1)).Nodup := by decide
  further : ∀ entries, fields.lookup "extra" = some (.map entries) →
    ∃ extra : List (String × Value), .map entries = Value.ofFields extra ∧
      (extra.map (·.1)).Nodup := by
    rintro entries hentries <;> cases hentries <;> exact ⟨_, rfl, by decide⟩

namespace Given

/-- The value for a named field. -/
def asField (given : Given) (key : String) : Option Value :=
  if key = "extra" then none else given.fields.lookup key

/-- The value for a further field. -/
def inExtra (given : Given) (key : String) : Option Value :=
  (given.fields.lookup "extra").bind (·.field? key)

/-- The value for a key, in whichever way it is given. -/
def gives (given : Given) (key : String) : Option Value :=
  (given.asField key).or (given.inExtra key)

/-- There are only fields that a position has, and the further ones are in a map. -/
structure Acceptable (given : Given) : Prop where
  known : ∀ field ∈ given.fields, field.1 ≠ "extra" → field.1 ∈ fieldNames
  isMap : ∀ v, given.fields.lookup "extra" = some v → ∃ entries, v = .map entries

/-- Every named field is set to something, and no key is given in both ways. -/
structure Proper (given : Given) : Prop extends Acceptable given where
  isSet : ∀ field ∈ given.fields, field.1 ≠ "extra" → Context.isSet field.2
  once : ∀ field ∈ given.fields, field.1 ≠ "extra" → given.inExtra field.1 = none

end Given

/-- What the blocks, innermost first, make of a key. -/
def told (opened : List Given) (key : String) : Option Value :=
  (opened.findSome? (·.inExtra key)).or ((opened.findSome? (·.asField key)).filter Context.isSet)

/-- What the innermost block that gives the key gives. -/
def innermost (opened : List Given) (key : String) : Option Value :=
  opened.findSome? (·.gives key)

/-- The innermost block that gives the key gives it as a named field, and a block around that one
gives another value for it as a further field. -/
def Hidden (opened : List Given) (key : String) : Prop :=
  ∃ inside given around v w, opened = inside ++ given :: around ∧
    (∀ other ∈ inside, other.gives key = none) ∧ given.asField key = some v ∧
    around.findSome? (·.inExtra key) = some w ∧ w ≠ v

section Entering

variable {context inner : Context} {given : Given} {opened : List Given}
  {fields : List (String × Value)} {name : String} {v : Value}

theorem set_eq_ok (hset : context.set name v = .ok inner) :
    inner.extra = context.extra ∧
      ∀ key, inner.named.lookup key = if key = name then some v else context.named.lookup key := by
  unfold Context.set at hset
  split at hset
  case h_5 => cases hset
  all_goals
    obtain rfl := Except.ok.inj hset
    refine ⟨rfl, fun key => ?_⟩
    simp only [Context.named, List.lookup_cons]
    grind

theorem set_isOk_iff : (∃ inner, context.set name v = .ok inner) ↔ name ∈ fieldNames := by
  unfold Context.set fieldNames
  split <;> simp_all

theorem foldlM_set_eq_ok (hnames : (fields.map (·.1)).Nodup)
    (hset : fields.foldlM (fun context field => context.set field.1 field.2) context = .ok inner) :
    inner.extra = context.extra ∧
      ∀ key, inner.named.lookup key = (fields.lookup key).or (context.named.lookup key) := by
  induction fields generalizing context with
  | nil =>
      obtain rfl := Except.ok.inj hset
      exact ⟨rfl, fun key => rfl⟩
  | cons field rest ih =>
      obtain ⟨name, v⟩ := field
      obtain ⟨hname, hrest⟩ := List.nodup_cons.mp hnames
      obtain ⟨next, hnext, hset⟩ := bind_eq_ok_iff.mp hset
      obtain ⟨hextra, hnamed⟩ := set_eq_ok hnext
      obtain ⟨hextra', hnamed'⟩ := ih hrest hset
      refine ⟨hextra'.trans hextra, fun key => ?_⟩
      rw [hnamed', hnamed, List.lookup_cons]
      by_cases hkey : key = name
      · subst hkey
        simp [Registry.lookup_eq_none_iff_notMem.mpr hname]
      · simp [hkey, beq_eq_false_iff_ne.mpr hkey]

theorem foldlM_set_isOk_iff (context : Context) (fields : List (String × Value)) :
    (∃ inner, fields.foldlM (fun context field => context.set field.1 field.2) context =
        .ok inner) ↔
      ∀ field ∈ fields, field.1 ∈ fieldNames := by
  induction fields generalizing context with
  | nil => simp [pure, Except.pure]
  | cons field rest ih =>
      rw [List.forall_mem_cons, List.foldlM_cons]
      constructor
      · rintro ⟨inner, hset⟩
        obtain ⟨next, hnext, hset⟩ := bind_eq_ok_iff.mp hset
        exact ⟨set_isOk_iff.mp ⟨next, hnext⟩, (ih next).mp ⟨inner, hset⟩⟩
      · rintro ⟨hfield, hrest⟩
        obtain ⟨next, hnext⟩ := set_isOk_iff.mpr hfield
        obtain ⟨inner, hinner⟩ := (ih next).mpr hrest
        exact ⟨inner, bind_eq_ok_iff.mpr ⟨next, hnext, hinner⟩⟩

/-- The position with the further fields of a block laid over its own. -/
def Context.widened (context : Context) (given : Given) : Except ContextRefusal Context :=
  match given.fields.lookup "extra" with
  | some extra => context.withExtra extra
  | none => pure context

theorem widened_eq_ok (hwidened : context.widened given = .ok inner) :
    inner.named = context.named ∧
      ((context.extra.map (·.1)).Nodup → (inner.extra.map (·.1)).Nodup) ∧
      ∀ key, inner.extra.lookup key = (given.inExtra key).or (context.extra.lookup key) := by
  unfold Context.widened at hwidened
  cases hextra : given.fields.lookup "extra" with
  | none =>
      rw [hextra] at hwidened
      obtain rfl := Except.ok.inj hwidened
      exact ⟨rfl, id, fun key => by simp [Given.inExtra, hextra]⟩
  | some v =>
      rw [hextra] at hwidened
      dsimp only at hwidened
      unfold Context.withExtra at hwidened
      split at hwidened
      · rename_i entries
        obtain rfl := Except.ok.inj hwidened
        obtain ⟨extra, hentries, hnames⟩ := given.further entries hextra
        obtain rfl := Value.map.inj hentries
        rw [Value.textEntries_map]
        refine ⟨rfl, fun hnodup => nodup_overlay hnodup extra, fun key => ?_⟩
        rw [lookup_overlay hnames]
        simp [Given.inExtra, hextra, Value.field?, Value.fields, Value.textEntries_map]
      · cases hwidened

theorem widened_isOk_iff (context : Context) (given : Given) :
    (∃ inner, context.widened given = .ok inner) ↔
    ∀ v, given.fields.lookup "extra" = some v → ∃ entries, v = .map entries := by
  unfold Context.widened
  cases given.fields.lookup "extra" with
  | none => simp [pure, Except.pure]
  | some v => cases v <;> simp [Context.withExtra]

theorem within_given (context : Context) (given : Given) :
    context.within given.fields =
      if given.fields.any fun field => field.1 = "self" then .error (.repeated "self")
      else (context.widened given).bind fun middle =>
        (given.fields.filter fun field => field.1 ≠ "extra").foldlM
          (fun context field => context.set field.1 field.2) middle := by
  unfold Context.within Context.widened
  dsimp only
  split
  · rfl
  · cases given.fields.lookup "extra" <;> rfl

theorem within_eq_ok (hwithin : context.within given.fields = .ok inner) :
    ∃ middle, context.widened given = .ok middle ∧
      (given.fields.filter fun field => field.1 ≠ "extra").foldlM
        (fun context field => context.set field.1 field.2) middle = .ok inner := by
  rw [within_given] at hwithin
  split at hwithin
  · cases hwithin
  · exact bind_eq_ok_iff.mp hwithin

theorem lookup_filter_extra (given : Given) (key : String) :
    (given.fields.filter fun field => field.1 ≠ "extra").lookup key = given.asField key := by
  rw [Options.lookup_filter given.nodup, Given.asField]
  by_cases hkey : key = "extra"
  · cases given.fields.lookup key <;> simp [hkey, Option.filter]
  · cases given.fields.lookup key <;> simp [hkey, Option.filter]

/-- A block is entered at every position, or at none. -/
theorem within_isOk_iff (context : Context) (given : Given) :
    (∃ inner, context.within given.fields = .ok inner) ↔ given.Acceptable := by
  constructor
  · rintro ⟨inner, hwithin⟩
    obtain ⟨middle, hwidened, hset⟩ := within_eq_ok hwithin
    refine ⟨fun field hfield hother => ?_, (widened_isOk_iff context given).mp ⟨middle, hwidened⟩⟩
    exact (foldlM_set_isOk_iff middle _).mp ⟨inner, hset⟩ field
      (List.mem_filter.mpr ⟨hfield, by simpa using hother⟩)
  · rintro ⟨hknown, hmap⟩
    obtain ⟨middle, hwidened⟩ := (widened_isOk_iff context given).mpr hmap
    have hset : ∀ field ∈ given.fields.filter (fun field => field.1 ≠ "extra"),
        field.1 ∈ fieldNames := by
      intro field hfield
      obtain ⟨hfield, hother⟩ := List.mem_filter.mp hfield
      exact hknown field hfield (by simpa using hother)
    obtain ⟨inner, hinner⟩ := (foldlM_set_isOk_iff middle _).mpr hset
    have hself : ¬ given.fields.any (fun field => field.1 = "self") = true := by
      simp only [List.any_eq_true, decide_eq_true_eq, not_exists, not_and]
      rintro field hfield hname
      have hmem := hknown field hfield (by rw [hname]; decide)
      rw [hname] at hmem
      exact absurd hmem (by decide)
    refine ⟨inner, ?_⟩
    rw [within_given, if_neg hself]
    exact bind_eq_ok_iff.mpr ⟨middle, hwidened, hinner⟩

/-- What a block can be given is found out by entering it at the start. -/
theorem acceptable_iff (given : Given) :
    given.Acceptable ↔ (({} : Context).within given.fields).toOption.isSome := by
  rw [← within_isOk_iff {}]
  cases ({} : Context).within given.fields <;> simp [Except.toOption]

theorem proper_iff (given : Given) :
    given.Proper ↔ given.Acceptable ∧ ∀ field ∈ given.fields, field.1 ≠ "extra" →
      Context.isSet field.2 ∧ given.inExtra field.1 = none := by
  constructor
  · rintro ⟨haccepted, hset, honce⟩
    exact ⟨haccepted, fun field hfield hother =>
      ⟨hset field hfield hother, honce field hfield hother⟩⟩
  · rintro ⟨haccepted, hfields⟩
    exact ⟨haccepted, fun field hfield hother => (hfields field hfield hother).1,
      fun field hfield hother => (hfields field hfield hother).2⟩

instance (given : Given) : Decidable given.Acceptable :=
  decidable_of_iff _ (acceptable_iff given).symm

instance (given : Given) : Decidable given.Proper :=
  decidable_of_iff _ (proper_iff given).symm

/-- The position is that inside blocks, innermost first, which were entered from the start. -/
structure Inside (opened : List Given) (context : Context) : Prop where
  nodup : (context.extra.map (·.1)).Nodup
  extra : ∀ key, context.extra.lookup key = opened.findSome? (·.inExtra key)
  named : ∀ key, context.named.lookup key =
    (opened.findSome? (·.asField key)).or (({} : Context).named.lookup key)

theorem inside_start : Inside [] {} :=
  ⟨List.nodup_nil, fun _ => rfl, fun _ => rfl⟩

theorem Inside.enter (hinside : Inside opened context)
    (hwithin : context.within given.fields = .ok inner) : Inside (given :: opened) inner := by
  obtain ⟨middle, hwidened, hset⟩ := within_eq_ok hwithin
  obtain ⟨hnamed, hnodup, hextra⟩ := widened_eq_ok hwidened
  obtain ⟨hextra', hnamed'⟩ := foldlM_set_eq_ok
    (given.nodup.sublist (List.filter_sublist.map _)) hset
  refine ⟨?_, fun key => ?_, fun key => ?_⟩
  · rw [hextra']
    exact hnodup hinside.nodup
  · rw [hextra', hextra, hinside.extra, List.findSome?_cons]
    cases given.inExtra key <;> rfl
  · rw [hnamed', hnamed, hinside.named, lookup_filter_extra, List.findSome?_cons]
    cases given.asField key <;> rfl

theorem nodup_named (context : Context) : (context.named.map (·.1)).Nodup := by
  change ["run_id", "phase", "entity", "builder"].Nodup
  decide

theorem lookup_toFields (hnodup : (context.extra.map (·.1)).Nodup) (key : String) :
    context.toFields.lookup key =
      (context.extra.lookup key).or ((context.named.lookup key).filter Context.isSet) := by
  rw [Context.toFields, lookup_overlay hnodup, Options.lookup_filter (nodup_named context)]

theorem filter_named_start (key : String) :
    (({} : Context).named.lookup key).filter Context.isSet = none := by
  simp only [Context.named, List.lookup_cons]
  repeat' split
  all_goals rfl

/-- Inside blocks every key is told by what they were given. -/
theorem Inside.lookup_toFields (hinside : Inside opened context) (key : String) :
    context.toFields.lookup key = told opened key := by
  rw [Journal.lookup_toFields hinside.nodup, hinside.extra, hinside.named, told]
  cases opened.findSome? (·.asField key) with
  | none => rw [Option.none_or, filter_named_start, Option.filter_none]
  | some v => rw [Option.some_or]

end Entering

section Hiding

variable {opened : List Given} {given : Given} {key : String} {v : Value}

theorem mem_of_asField (hfield : given.asField key = some v) :
    (key, v) ∈ given.fields ∧ key ≠ "extra" := by
  unfold Given.asField at hfield
  split at hfield
  · cases hfield
  · rename_i hother
    obtain ⟨before, after, hsplit, -⟩ := List.lookup_eq_some_iff.mp hfield
    exact ⟨by simp [hsplit], hother⟩

theorem not_hidden_nil : ¬ Hidden [] key := by
  rintro ⟨inside, given, around, v, w, hsplit, -⟩
  simp at hsplit

theorem hidden_cons_of_none (hgiven : given.gives key = none) :
    Hidden (given :: opened) key ↔ Hidden opened key := by
  constructor
  · rintro ⟨inside, other, around, v, w, hsplit, hinside, hother, haround, hne⟩
    cases inside with
    | nil =>
        obtain ⟨rfl, rfl⟩ := List.cons.inj hsplit
        simp [Given.gives, hother] at hgiven
    | cons first inside =>
        obtain ⟨rfl, rfl⟩ := List.cons.inj hsplit
        exact ⟨inside, other, around, v, w, rfl, (List.forall_mem_cons.mp hinside).2, hother,
          haround, hne⟩
  · rintro ⟨inside, other, around, v, w, rfl, hinside, hother, haround, hne⟩
    exact ⟨given :: inside, other, around, v, w, rfl, List.forall_mem_cons.mpr ⟨hgiven, hinside⟩,
      hother, haround, hne⟩

theorem hidden_cons_of_some (hgiven : given.gives key = some v) :
    Hidden (given :: opened) key ↔ given.asField key = some v ∧
      ∃ w, opened.findSome? (·.inExtra key) = some w ∧ w ≠ v := by
  constructor
  · rintro ⟨inside, other, around, u, w, hsplit, hinside, hother, haround, hne⟩
    cases inside with
    | nil =>
        obtain ⟨rfl, rfl⟩ := List.cons.inj hsplit
        have hsame : u = v := by simpa [Given.gives, hother] using hgiven
        subst hsame
        exact ⟨hother, w, haround, hne⟩
    | cons first inside =>
        obtain ⟨rfl, rfl⟩ := List.cons.inj hsplit
        have hnone := (List.forall_mem_cons.mp hinside).1
        rw [hgiven] at hnone
        cases hnone
  · rintro ⟨hfield, w, haround, hne⟩
    exact ⟨[], given, opened, v, w, rfl, by simp, hfield, haround, hne⟩

/-- A key has the value of the innermost block that gives it, unless that value is hidden. -/
theorem told_eq_innermost_iff (hproper : ∀ given ∈ opened, given.Proper) :
    told opened key = innermost opened key ↔ ¬ Hidden opened key := by
  induction opened with
  | nil => exact iff_of_true rfl not_hidden_nil
  | cons given around ih =>
      obtain ⟨hgiven, haround⟩ := List.forall_mem_cons.mp hproper
      rw [told, innermost, List.findSome?_cons, List.findSome?_cons, List.findSome?_cons]
      cases hfield : given.asField key with
      | none =>
          cases hextra : given.inExtra key with
          | none =>
              have hnone : given.gives key = none := by rw [Given.gives, hfield, hextra]; rfl
              rw [hnone, hidden_cons_of_none hnone]
              exact ih haround
          | some w =>
              have hsome : given.gives key = some w := by rw [Given.gives, hfield, hextra]; rfl
              rw [hsome, hidden_cons_of_some hsome, hfield]
              simp
      | some v =>
          obtain ⟨hmem, hother⟩ := mem_of_asField hfield
          have hextra := hgiven.once _ hmem hother
          have hset := hgiven.isSet _ hmem hother
          have hsome : given.gives key = some v := by rw [Given.gives, hfield]; rfl
          dsimp only at hextra hset
          rw [hextra, hsome, hidden_cons_of_some hsome, hfield]
          cases around.findSome? (·.inExtra key) with
          | none => simp [Option.filter, hset]
          | some w => simp

end Hiding

section Work

/-- Why work stops. -/
inductive Fault where
  /-- A block is refused. -/
  | refused (refusal : ContextRefusal)
  /-- The work itself fails. -/
  | own

/-- What is read at some point, and what the blocks around that point were given, innermost first.
-/
structure Sight where
  opened : List Given
  fields : List (String × Value)

/-- The open blocks, and what was read so far. -/
structure Scene where
  contexts : Contexts := []
  seen : List Sight := []

/-- Work that opens blocks. -/
inductive Deed where
  | nothing
  | fail
  /-- Read the position, and go on. -/
  | look (next : Deed)
  /-- Work in a block, and go on behind it. -/
  | within (given : Given) (inside next : Deed)
  /-- Work that may fail, and go on in any case. -/
  | despite (inside next : Deed)

/-- Work in a block. The block is left in any case, and a block that is refused is not entered. -/
def inBlock (given : Given) (work : Work Fault Scene Unit) : Work Fault Scene Unit := do
  match (← get).contexts.enter given.fields with
  | .error refusal => throw (.refused refusal)
  | .ok contexts =>
    modify fun s => { s with contexts }
    Work.lastly work (modify fun s => { s with contexts := s.contexts.leave })

/-- Do the work, with the blocks around it. -/
def Deed.run (opened : List Given) : Deed → Work Fault Scene Unit
  | nothing => pure ()
  | fail => throw .own
  | look next => do
    modify fun s => { s with seen := s.seen ++ [⟨opened, s.contexts.current.toFields⟩] }
    next.run opened
  | within given inside next => do
    inBlock given (inside.run (given :: opened))
    next.run opened
  | despite inside next => do
    tryCatch (inside.run opened) fun _ => pure ()
    next.run opened

/-- The open blocks and what was read when the work is done or has failed. -/
def Deed.after (deed : Deed) (opened : List Given) (scene : Scene) : Scene :=
  ((deed.run opened).outcome scene).2

variable {opened : List Given} {scene : Scene}

theorem outcome_inBlock (given : Given) (work : Work Fault Scene Unit) (s : Scene) :
    (inBlock given work).outcome s = match s.contexts.enter given.fields with
      | .error refusal => (.error (.refused refusal), s)
      | .ok contexts =>
        let done := work.outcome { s with contexts }
        (done.1, { done.2 with contexts := done.2.contexts.leave }) := by
  rw [inBlock, Work.outcome_bind, Work.outcome_get, Work.continued_ok]
  cases s.contexts.enter given.fields with
  | error refusal => rfl
  | ok contexts =>
      dsimp only
      rw [Work.outcome_bind, Work.outcome_modify, Work.continued_ok, Work.outcome_lastly]
      rcases work.outcome { s with contexts } with ⟨_ | _, after⟩ <;> rfl

theorem after_look (next : Deed) (opened : List Given) (scene : Scene) :
    (Deed.look next).after opened scene = next.after opened { scene with
      seen := scene.seen ++ [⟨opened, scene.contexts.current.toFields⟩] } := rfl

theorem after_within (given : Given) (inside next : Deed) (opened : List Given) (scene : Scene) :
    (Deed.within given inside next).after opened scene = scene ∨
      ∃ position, scene.contexts.current.within given.fields = .ok position ∧
        let done := inside.after (given :: opened)
          { scene with contexts := position :: scene.contexts }
        let left : Scene := { done with contexts := done.contexts.leave }
        (Deed.within given inside next).after opened scene = left ∨
          (Deed.within given inside next).after opened scene = next.after opened left := by
  have hrun : (Deed.within given inside next).after opened scene =
      (Work.continued (fun _ => next.run opened)
        ((inBlock given (inside.run (given :: opened))).outcome scene)).2 := by
    rw [Deed.after, Deed.run, Work.outcome_bind]
  rw [hrun, outcome_inBlock, Contexts.enter]
  cases hwithin : scene.contexts.current.within given.fields with
  | error refusal => exact Or.inl rfl
  | ok position =>
      refine Or.inr ⟨position, rfl, ?_⟩
      change _ ∨ _
      dsimp only [Except.map, Deed.after]
      cases ((inside.run (given :: opened)).outcome
          { scene with contexts := position :: scene.contexts }).1 with
      | error fault => exact Or.inl rfl
      | ok _ => exact Or.inr rfl

theorem after_despite (inside next : Deed) (opened : List Given) (scene : Scene) :
    (Deed.despite inside next).after opened scene =
      next.after opened (inside.after opened scene) := by
  rw [Deed.after, Deed.run, Work.outcome_bind, Work.outcome_tryCatch, Deed.after, Deed.after]
  rcases (inside.run opened).outcome scene with ⟨_ | _, after⟩ <;> rfl

/-- Whatever work is done, and however it ends, the blocks around it are open behind it as before.
-/
theorem contexts_after (deed : Deed) (opened : List Given) (scene : Scene) :
    (deed.after opened scene).contexts = scene.contexts := by
  induction deed generalizing opened scene with
  | nothing => rfl
  | fail => rfl
  | look next ih => rw [after_look, ih]
  | within given inside next ihInside ihNext =>
      rcases after_within given inside next opened scene with
        hrefused | ⟨position, -, hfailed | hdone⟩
      · rw [hrefused]
      · rw [hfailed, ihInside]
        rfl
      · rw [hdone, ihNext, ihInside]
        rfl
  | despite inside next ihInside ihNext => rw [after_despite, ihNext, ihInside]

/-- What is read names every key once, and is what the blocks make of each key. -/
structure Sight.Told (sight : Sight) : Prop where
  nodup : (sight.fields.map (·.1)).Nodup
  lookup : ∀ key, sight.fields.lookup key = told sight.opened key

/-- All that is read inside blocks that were entered from the start is told by them. -/
theorem told_after (deed : Deed) (hinside : Inside opened scene.contexts.current)
    (hseen : ∀ sight ∈ scene.seen, sight.Told) :
    ∀ sight ∈ (deed.after opened scene).seen, sight.Told := by
  induction deed generalizing opened scene with
  | nothing => exact hseen
  | fail => exact hseen
  | look next ih =>
      rw [after_look]
      refine ih hinside (List.forall_mem_append.mpr ⟨hseen, List.forall_mem_singleton.mpr ?_⟩)
      exact ⟨nodup_toFields _, hinside.lookup_toFields⟩
  | within given inside next ihInside ihNext =>
      rcases after_within given inside next opened scene with
        hrefused | ⟨position, hwithin, hafter⟩
      · rw [hrefused]
        exact hseen
      · let entered : Scene := { scene with contexts := position :: scene.contexts }
        have hposition : Inside (given :: opened) entered.contexts.current := hinside.enter hwithin
        have hdone := ihInside hposition hseen
        rcases hafter with hfailed | hnext
        · rw [hfailed]
          exact hdone
        · rw [hnext]
          refine ihNext ?_ hdone
          rw [contexts_after]
          exact hinside
  | despite inside next ihInside ihNext =>
      rw [after_despite]
      refine ihNext ?_ (ihInside hinside hseen)
      rw [contexts_after]
      exact hinside

/-- Work in blocks leaves the blocks around it as they were, however it ends. A block is refused
only for a field that no position has, or for further fields that are no map. Otherwise all that
is read in it depends on what the open blocks were given, and a key has the value of the innermost
block that gives it, unless that value is hidden behind a further field of a block around it.
-/
theorem innermost_block_wins_iff (deed : Deed) (given : Given) :
    (∀ (opened : List Given) (scene : Scene),
      (deed.after opened scene).contexts = scene.contexts) ∧
    (∀ context : Context,
      (∃ inner, context.within given.fields = .ok inner) ↔ given.Acceptable) ∧
    ∀ sight ∈ (deed.after [] {}).seen, sight.Told ∧
      ((∀ given ∈ sight.opened, given.Proper) → ∀ key,
        sight.fields.lookup key = innermost sight.opened key ↔ ¬ Hidden sight.opened key) := by
  refine ⟨contexts_after deed, fun context => within_isOk_iff context given, fun sight hsight => ?_⟩
  have htold := told_after deed inside_start (List.forall_mem_nil _) sight hsight
  refine ⟨htold, fun hproper key => ?_⟩
  rw [htold.lookup, told_eq_innermost_iff hproper]

/-- A block whose further fields have the name of a field that is set around it and of one that is
given as null; work in it that fails; and a block that is refused. -/
theorem innermost_block_wins_in_failing_work :
    let outer : Given := {
      fields := [("run_id", .text "r"), ("extra", .ofFields [("k", .null), ("builder", .int 1)])] }
    let inner : Given := {
      fields := [("extra", .ofFields [("run_id", .text "shadow"), ("k", .int 2)]),
        ("phase", .text "p")] }
    let unknown : Given := { fields := [("stage", .int 1)] }
    let deed : Deed := .within outer
      (.despite (.within inner (.look .fail) .nothing)
        (.despite (.within unknown (.look .nothing) .nothing) (.look .nothing)))
      (.look .nothing)
    let inmost : Sight := ⟨[inner, outer], [("run_id", .text "shadow"), ("phase", .text "p"),
      ("k", .int 2), ("builder", .int 1)]⟩
    let behind : Sight := ⟨[outer], [("run_id", .text "r"), ("k", .null), ("builder", .int 1)]⟩
    (deed.after [] {}).seen = [inmost, behind, ⟨[], []⟩] ∧ (deed.after [] {}).contexts = [] ∧
      ¬ unknown.Acceptable ∧ (∀ given ∈ inmost.opened, given.Proper) ∧
      innermost inmost.opened "run_id" = some (.text "shadow") ∧
      ¬ Hidden inmost.opened "run_id" := by
  intro outer inner unknown deed inmost behind
  have hseen : (deed.after [] {}).seen = [inmost, behind, ⟨[], []⟩] := rfl
  have hproper : ∀ given ∈ inmost.opened, given.Proper := by decide +kernel
  obtain ⟨hcontexts, haccepted, htold⟩ := innermost_block_wins_iff deed unknown
  have hrefused : ¬ unknown.Acceptable := by
    rw [← haccepted {}]
    rintro ⟨position, hposition⟩
    cases hposition
  have hsight := (htold inmost (by rw [hseen]; exact List.mem_cons_self)).2 hproper "run_id"
  exact ⟨hseen, hcontexts [] {}, hrefused, hproper, rfl, hsight.mp rfl⟩

/-- A block sets a field, but a block around it gives another value for its name as a further
field. -/
theorem inner_field_hidden :
    let outer : Given := { fields := [("extra", .ofFields [("phase", .text "x")])] }
    let inner : Given := { fields := [("phase", .text "y")] }
    let deed : Deed := .within outer (.within inner (.look .nothing) .nothing) .nothing
    let sight : Sight := ⟨[inner, outer], [("phase", .text "x")]⟩
    sight ∈ (deed.after [] {}).seen ∧ (∀ given ∈ sight.opened, given.Proper) ∧
      innermost sight.opened "phase" = some (.text "y") ∧
      sight.fields.lookup "phase" ≠ innermost sight.opened "phase" := by
  intro outer inner deed sight
  have hseen : (deed.after [] {}).seen = [sight] := rfl
  refine ⟨by rw [hseen]; exact List.mem_singleton_self _, by decide +kernel, rfl, ?_⟩
  change some (Value.text "x") ≠ some (Value.text "y")
  simp

end Work

end TableTypes.Journal
