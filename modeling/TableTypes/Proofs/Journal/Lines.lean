import TableTypes.Journal.Line
import TableTypes.Proofs.FirstFailure
import TableTypes.Proofs.Json.Reading
import TableTypes.Proofs.Registry.Registration
import TableTypes.Proofs.Value.Fields

/-! # Structured log lines

Blocks of the log are entered and left, and as long as they are given nothing but values that JSON
has, so is every position. An entry in the structured format is then one object, and its line is
read back as this object: the message, the position and what the caller adds are found under their
names. The position and what is added are left out where there is nothing to show.
-/

namespace TableTypes.Journal

open Json (IsJson)
open Text (Plain)

section Positions

/-- A block is entered with fields, or the innermost one is left. -/
inductive Move where
  | enter (fields : List (String × Value))
  | leave

/-- The open blocks after a move. A block that is refused is not entered. -/
def Contexts.move (open_ : Contexts) : Move → Contexts
  | .enter fields => (open_.enter fields).toOption.getD open_
  | .leave => open_.leave

/-- A block is given nothing but values that JSON has. -/
def Move.GivesJson : Move → Prop
  | .enter fields => ∀ field ∈ fields, IsJson field.2
  | .leave => True

/-- A position of nothing but values that JSON has. -/
structure Context.HoldsJson (context : Context) : Prop where
  named : ∀ field ∈ context.named, IsJson field.2
  extra : ∀ field ∈ context.extra, IsJson field.2

variable {context inner : Context} {open_ : Contexts} {fields : List (String × Value)} {v : Value}

theorem holdsJson_start : Context.HoldsJson {} := by
  constructor
  · simp [Context.named, IsJson.null]
  · simp

theorem Context.HoldsJson.set (hcontext : context.HoldsJson) {name : String} (hv : IsJson v)
    (hset : context.set name v = .ok inner) : inner.HoldsJson := by
  obtain ⟨hnamed, hextra⟩ := hcontext
  simp only [Context.named, List.forall_mem_cons] at hnamed
  obtain ⟨hrun, hphase, hentity, hbuilder, -⟩ := hnamed
  unfold Context.set at hset
  split at hset
  case h_5 => cases hset
  all_goals
    obtain rfl := Except.ok.inj hset
    refine ⟨?_, hextra⟩
    simp [Context.named, *]

theorem Context.HoldsJson.withExtra (hcontext : context.HoldsJson) (hv : IsJson v)
    (hextra : context.withExtra v = .ok inner) : inner.HoldsJson := by
  unfold Context.withExtra at hextra
  split at hextra
  · obtain rfl := Except.ok.inj hextra
    obtain ⟨fields, rfl, hfields⟩ := hv.exists_fields
    rw [Json.entries, Value.textEntries_map]
    exact ⟨hcontext.named, forall_overlay hcontext.extra hfields⟩
  · cases hextra

theorem Context.HoldsJson.foldlM_set (hcontext : context.HoldsJson)
    (hfields : ∀ field ∈ fields, IsJson field.2)
    (hset : fields.foldlM (fun context field => context.set field.1 field.2) context = .ok inner) :
    inner.HoldsJson := by
  induction fields generalizing context with
  | nil =>
      obtain rfl := Except.ok.inj hset
      exact hcontext
  | cons field rest ih =>
      obtain ⟨hfield, hrest⟩ := List.forall_mem_cons.mp hfields
      obtain ⟨next, hnext, hset⟩ := bind_eq_ok_iff.mp hset
      exact ih (hcontext.set hfield hnext) hrest hset

theorem Context.HoldsJson.within (hcontext : context.HoldsJson)
    (hfields : ∀ field ∈ fields, IsJson field.2) (hwithin : context.within fields = .ok inner) :
    inner.HoldsJson := by
  have hothers : ∀ field ∈ fields.filter (fun field => field.1 ≠ "extra"), IsJson field.2 :=
    fun field hfield => hfields field (List.mem_of_mem_filter hfield)
  unfold Context.within at hwithin
  dsimp only at hwithin
  split at hwithin
  · cases hwithin
  cases hextra : fields.lookup "extra" with
  | none =>
      rw [hextra] at hwithin
      exact hcontext.foldlM_set hothers hwithin
  | some extra =>
      rw [hextra] at hwithin
      obtain ⟨next, hnext, hwithin⟩ := bind_eq_ok_iff.mp hwithin
      obtain ⟨before, after, hsplit, -⟩ := List.lookup_eq_some_iff.mp hextra
      have hjson : IsJson extra := hfields ("extra", extra) (by rw [hsplit]; simp)
      exact (hcontext.withExtra hjson hnext).foldlM_set hothers hwithin

theorem holdsJson_current (hopen : ∀ context ∈ open_, context.HoldsJson) :
    open_.current.HoldsJson := by
  cases open_ with
  | nil => exact holdsJson_start
  | cons context outer => exact hopen context List.mem_cons_self

/-- A move keeps every position among the values that JSON has. -/
theorem holdsJson_move (hopen : ∀ context ∈ open_, context.HoldsJson) {move : Move}
    (hmove : move.GivesJson) : ∀ context ∈ open_.move move, context.HoldsJson := by
  cases move with
  | leave => exact fun context hcontext => hopen context (List.mem_of_mem_drop hcontext)
  | enter fields =>
      rw [Contexts.move, Contexts.enter]
      cases hinner : open_.current.within fields with
      | error refused => exact hopen
      | ok inner =>
          exact List.forall_mem_cons.mpr ⟨(holdsJson_current hopen).within hmove hinner, hopen⟩

theorem holdsJson_moves (hopen : ∀ context ∈ open_, context.HoldsJson) {moves : List Move}
    (hmoves : ∀ move ∈ moves, move.GivesJson) :
    ∀ context ∈ moves.foldl Contexts.move open_, context.HoldsJson := by
  induction moves generalizing open_ with
  | nil => exact hopen
  | cons move rest ih =>
      obtain ⟨hmove, hrest⟩ := List.forall_mem_cons.mp hmoves
      exact ih (holdsJson_move hopen hmove) hrest

end Positions

section Fields

variable {context : Context}

theorem nodup_toFields (context : Context) : (context.toFields.map (·.1)).Nodup := by
  refine nodup_overlay ?_ context.extra
  have hnamed : (context.named.map (·.1)).Nodup := by
    change ["run_id", "phase", "entity", "builder"].Nodup
    decide
  exact hnamed.sublist (List.filter_sublist.map _)

theorem Context.HoldsJson.toFields (hcontext : context.HoldsJson) :
    ∀ field ∈ context.toFields, IsJson field.2 :=
  forall_overlay (fun field hfield => hcontext.named field (List.mem_of_mem_filter hfield))
    hcontext.extra

variable {logger : Logger} {data : List (String × Value)}

/-- A caller's field comes before the component of the logger. -/
theorem lookup_tag (logger : Logger) (data : List (String × Value)) (name : String) :
    (logger.tag data).lookup name = (data.lookup name).or
      (if name = "component" then logger.component.map fun component => .text component.name
        else none) := by
  unfold Logger.tag
  cases logger.component with
  | none => simp
  | some component =>
      dsimp only
      split
      · rename_i hgiven
        split
        · rename_i hname
          obtain ⟨v, hv⟩ := Option.isSome_iff_exists.mp hgiven
          rw [hname, hv, Option.some_or]
        · rw [Option.or_none]
      · rw [List.lookup_append]
        split
        · rename_i hname
          rw [hname]
          rfl
        · rename_i hname
          rw [List.lookup_cons, beq_eq_false_iff_ne.mpr hname]
          rfl

theorem nodup_tag (logger : Logger) (hnames : (data.map (·.1)).Nodup) :
    ((logger.tag data).map (·.1)).Nodup := by
  unfold Logger.tag
  split
  · split
    · exact hnames
    · rename_i hnew
      rw [Option.not_isSome_iff_eq_none, Registry.lookup_eq_none_iff_notMem] at hnew
      rw [List.map_append]
      refine List.Nodup.append hnames (List.nodup_singleton _) fun name hname hcomponent => hnew ?_
      rwa [List.mem_singleton.mp hcomponent] at hname
  · exact hnames

theorem isJson_tag (logger : Logger) (hdata : ∀ field ∈ data, IsJson field.2) :
    ∀ field ∈ logger.tag data, IsJson field.2 := by
  unfold Logger.tag
  split
  · split
    · exact hdata
    · exact List.forall_mem_append.mpr ⟨hdata, List.forall_mem_singleton.mpr (.text _)⟩
  · exact hdata

theorem names_optionalField (name : String) (fields : List (String × Value)) :
    ((optionalField name fields).map (·.1)).Sublist [name] := by
  unfold optionalField
  split
  · exact List.nil_sublist _
  · exact List.Sublist.refl _

theorem lookup_optionalField (name : String) (fields : List (String × Value)) :
    (optionalField name fields).lookup name =
      if fields.isEmpty then none else some (.ofFields fields) := by
  unfold optionalField
  split
  · rfl
  · exact List.lookup_cons_self

theorem lookup_optionalField_of_ne {name other : String} (hother : other ≠ name)
    (fields : List (String × Value)) : (optionalField name fields).lookup other = none := by
  unfold optionalField
  split
  · rfl
  · rw [List.lookup_cons, beq_eq_false_iff_ne.mpr hother, List.lookup_nil]

theorem isJson_optionalField {fields : List (String × Value)} (name : String)
    (hnames : (fields.map (·.1)).Nodup) (hfields : ∀ field ∈ fields, IsJson field.2) :
    ∀ field ∈ optionalField name fields, IsJson field.2 := by
  unfold optionalField
  split
  · simp
  · exact List.forall_mem_singleton.mpr (.object hnames hfields)

variable {entry : Entry}

theorem nodup_structuredFields (includeContext : Bool) (now : Moment) (origin : Origin)
    (entry : Entry) : ((structuredFields includeContext now origin entry).map (·.1)).Nodup := by
  have hall : ["timestamp", "level", "logger", "message", "context", "data", "exception",
      "source"].Nodup := by decide
  have hcontext : ((if includeContext then optionalField "context" entry.context.toFields
      else []).map (·.1)).Sublist ["context"] := by
    split
    · exact names_optionalField _ _
    · exact List.nil_sublist _
  refine hall.sublist ?_
  cases hexception : entry.exception with
  | none =>
      simp only [structuredFields, hexception, List.map_append]
      exact ((((List.Sublist.refl _).append hcontext).append (names_optionalField _ _)).append
        (List.nil_sublist ["exception"])).append (List.Sublist.refl _)
  | some text =>
      simp only [structuredFields, hexception, List.map_append]
      exact ((((List.Sublist.refl _).append hcontext).append (names_optionalField _ _)).append
        (List.Sublist.refl _)).append (List.Sublist.refl _)

theorem isJson_structuredFields (includeContext : Bool) (now : Moment) (origin : Origin)
    (hcontext : entry.context.HoldsJson) (hnames : (entry.data.map (·.1)).Nodup)
    (hdata : ∀ field ∈ entry.data, IsJson field.2) :
    ∀ field ∈ structuredFields includeContext now origin entry, IsJson field.2 := by
  have hsource : IsJson (.ofFields [("file", .text origin.file), ("line", .int origin.line),
      ("function", .text origin.function)]) := by
    have hnames : ["file", "line", "function"].Nodup := by decide
    refine .object hnames ?_
    simp only [List.forall_mem_cons]
    exact ⟨.text _, .int _, .text _, by simp⟩
  unfold structuredFields
  refine List.forall_mem_append.mpr ⟨List.forall_mem_append.mpr ⟨List.forall_mem_append.mpr
    ⟨List.forall_mem_append.mpr ⟨?_, ?_⟩, ?_⟩, ?_⟩, List.forall_mem_singleton.mpr hsource⟩
  · simp only [List.forall_mem_cons]
    exact ⟨.text _, .text _, .text _, .text _, by simp⟩
  · split
    · exact isJson_optionalField _ (nodup_toFields _) hcontext.toFields
    · simp
  · exact isJson_optionalField _ hnames hdata
  · split
    · exact List.forall_mem_singleton.mpr (.text _)
    · simp

variable {includeContext : Bool} {now : Moment} {origin : Origin}

theorem lookup_message :
    (structuredFields includeContext now origin entry).lookup "message" =
      some (.text entry.message) := by
  simp only [structuredFields, List.lookup_append]
  rfl

theorem lookup_context :
    (structuredFields includeContext now origin entry).lookup "context" =
      if includeContext && !entry.context.toFields.isEmpty then
        some (.ofFields entry.context.toFields)
      else none := by
  have hdata : (optionalField "data" entry.data).lookup "context" = none :=
    lookup_optionalField_of_ne (by decide) _
  cases hexception : entry.exception <;> cases includeContext <;>
    simp [structuredFields, List.lookup_append, List.lookup_cons, hdata, hexception,
      lookup_optionalField]

theorem lookup_data :
    (structuredFields includeContext now origin entry).lookup "data" =
      if entry.data.isEmpty then none else some (.ofFields entry.data) := by
  have hcontext : (optionalField "context" entry.context.toFields).lookup "data" = none :=
    lookup_optionalField_of_ne (by decide) _
  cases hexception : entry.exception <;> cases includeContext <;>
    simp [structuredFields, List.lookup_append, List.lookup_cons, hcontext, hexception,
      lookup_optionalField]

end Fields

section Lines

variable {moves : List Move} {data : List (String × Value)}

/-- Whatever blocks were entered and left, an entry in the structured format is one line of plain
characters that is read back as one object. It has the message; the position, unless that is empty
or not asked for; and what the caller adds with the component of the logger, which comes last and
only if the caller does not give one, unless nothing is added.
-/
theorem structured_line_is_one_object (logger : Logger) (level : Int) (message : String)
    (includeContext : Bool) (now : Moment) (origin : Origin) (exception : Option String)
    (hmoves : ∀ move ∈ moves, move.GivesJson) (hnames : (data.map (·.1)).Nodup)
    (hdata : ∀ field ∈ data, IsJson field.2) :
    let context := (moves.foldl Contexts.move []).current
    let added := logger.tag data
    let entry : Entry := { (logger.note level message data).within context with exception }
    let line := (Format.structured includeContext).line now origin entry
    Plain line ∧
    (∃ fields, Json.read? line = some (.ofFields fields) ∧ (fields.map (·.1)).Nodup ∧
      fields.lookup "message" = some (.text message) ∧
      fields.lookup "context" =
        (if includeContext && !context.toFields.isEmpty then some (.ofFields context.toFields)
          else none) ∧
      fields.lookup "data" = if added.isEmpty then none else some (.ofFields added)) ∧
    ∀ name, added.lookup name = (data.lookup name).or
      (if name = "component" then logger.component.map fun component => .text component.name
        else none) := by
  intro context added entry line
  have hcontext : context.HoldsJson := holdsJson_current (holdsJson_moves (by simp) hmoves)
  have hobject : IsJson (.ofFields (structuredFields includeContext now origin entry)) :=
    .object (nodup_structuredFields includeContext now origin entry)
      (isJson_structuredFields includeContext now origin hcontext (nodup_tag logger hnames)
        (isJson_tag logger hdata))
  exact ⟨hobject.plain_render, ⟨_, Json.read?_render hobject,
    nodup_structuredFields includeContext now origin entry, lookup_message, lookup_context,
    lookup_data⟩, lookup_tag logger data⟩

/-- A block that holds numbers with a point, one inside it that has been left and one that is
refused; a message of two lines with quotes; characters that are controls, break lines or lie
outside the basic plane; and a caller with a component of its own. -/
theorem structured_line_of_odd_texts :
    let numbers : List Value := [.float 0.1, .float 5e-324, .float (-1.5e308)]
    let moves : List Move := [.enter [("run_id", .text "\u2028"), ("extra", .ofFields [
        ("phase", .list [.null, .int (-7), .ofFields []]), ("\"", .list numbers)])],
      .enter [("phase", .text "left again")], .leave, .enter [("stage", .null)]]
    let data : List (String × Value) := [("component", .int 1), ("ключ\n", .text "𝄞\x7f")]
    let message := "first \"line\"\nsecond\u0085"
    let now : Moment := ⟨⟨2026, 10, 19⟩, 9, 12, 3, 123456, none⟩
    let context := (moves.foldl Contexts.move []).current
    let logger : Logger := ⟨"app", some .cli⟩
    let line := (Format.structured true).line now ⟨"source.py", 1, "function"⟩
      ((logger.note 20 message data).within context)
    context.toFields = [("run_id", .text "\u2028"),
      ("phase", .list [.null, .int (-7), .ofFields []]), ("\"", .list numbers)] ∧
    Plain line ∧ ∃ fields, Json.read? line = some (.ofFields fields) ∧
      fields.lookup "message" = some (.text message) ∧
      fields.lookup "context" = some (.ofFields context.toFields) ∧
      fields.lookup "data" = some (.ofFields data) := by
  intro numbers moves data message now context logger line
  have hlist : IsJson (.list [.null, .int (-7), .ofFields []]) := by
    refine .list ?_
    simp only [List.forall_mem_cons]
    exact ⟨.null, .int _, .object (by decide) (by simp), by simp⟩
  have hnumbers : IsJson (.list numbers) := by
    refine .list ?_
    simp only [numbers, List.forall_mem_cons]
    exact ⟨.float (by decide +kernel), .float (by decide +kernel), .float (by decide +kernel),
      by simp⟩
  have hextra : IsJson (.ofFields [("phase", .list [.null, .int (-7), .ofFields []]),
      ("\"", .list numbers)]) := by
    refine .object (by decide) ?_
    simp only [List.forall_mem_cons]
    exact ⟨hlist, hnumbers, by simp⟩
  have hmoves : ∀ move ∈ moves, move.GivesJson := by
    simp only [moves, List.forall_mem_cons, Move.GivesJson]
    exact ⟨⟨.text _, hextra, by simp⟩, ⟨.text _, by simp⟩, trivial, ⟨.null, by simp⟩, by simp⟩
  have hdata : ∀ field ∈ data, IsJson field.2 := by
    simp only [data, List.forall_mem_cons]
    exact ⟨.int _, .text _, by simp⟩
  have hnames : (data.map (·.1)).Nodup := by simp [data]
  obtain ⟨hplain, ⟨fields, hread, -, hmessage, hcontext, hadded⟩, -⟩ :=
    structured_line_is_one_object logger 20 message true now ⟨"source.py", 1, "function"⟩ none
      hmoves hnames hdata
  exact ⟨rfl, hplain, fields, hread, hmessage, hcontext, hadded⟩

end Lines

end TableTypes.Journal
