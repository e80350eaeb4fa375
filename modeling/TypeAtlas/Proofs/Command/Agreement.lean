import TypeAtlas.Command.Run
import TypeAtlas.Proofs.Session.Keys
import TypeAtlas.Proofs.Session.SourceFiles

/-!
# The command and sessions

The command makes a session for the configuration that its command line asks for (`askedFor`), reads
the type reference, and prints what the session resolves it to. It reports the first failure, unless
that is of a kind that it lets through:

* `Command.written_of_isPlain`: a text without control sequences is written as it is;
* `Command.reports_or_escapes`: the failures of a session are reported, or files are at fault;
* `Command.resolveIn_ends`: all the ways in which the command ends;
* `Command.runResolved_agrees`: how the command ends, and what it says.
-/

namespace TypeAtlas

open Files (FileSystem Path)
open GraphQL (TypeExpr)
open Java (JavaType)

/-! ## Texts as they are written -/

namespace Text

theorem withoutSequences_append {cs : List Char} (h : '\x1b' ∉ cs) (rest : List Char) :
    withoutSequences (cs ++ rest) = cs ++ withoutSequences rest := by
  induction cs with
  | nil => rfl
  | cons c cs ih =>
    rw [List.mem_cons, not_or] at h
    have hnone : afterSequence? (c :: (cs ++ rest)) = none := by
      unfold afterSequence?
      split
      · rename_i heq
        exact absurd (List.cons.inj heq).1.symm h.1
      · rfl
    rw [List.cons_append, withoutSequences]
    split
    · rename_i hsome
      cases hnone.symm.trans hsome
    · rw [ih h.2, List.cons_append]

end Text

namespace Command

/-- Whether a text does not have the character that control sequences begin with. -/
def IsPlain (text : String) : Prop := '\x1b' ∉ text.toList

instance (text : String) : Decidable (IsPlain text) := inferInstanceAs (Decidable (¬_))

theorem IsPlain.append {text rest : String} (h : IsPlain text) (h' : IsPlain rest) :
    IsPlain (text ++ rest) := by
  rw [IsPlain, String.toList_append, List.mem_append, not_or]
  exact ⟨h, h'⟩

theorem written_append {text : String} (h : IsPlain text) (rest : String) :
    written (text ++ rest) = text ++ written rest := by
  rw [written, String.toList_append, Text.withoutSequences_append h, String.ofList_append,
    String.ofList_toList, written]

theorem written_of_isPlain {text : String} (h : IsPlain text) : written text = text := by
  have hempty := written_append h ""
  rwa [String.append_empty, show written "" = "" from by decide +kernel, String.append_empty] at hempty

/-! ## The configuration that is asked for -/

/-- Where the configuration starts from: the file if one is given, else what holds unless set. -/
inductive StartsFrom (fs : FileSystem) : Option String → Config → Prop
  | standard : StartsFrom fs none .standard
  | file {path : String} {base : Config} (h : Config.load fs path = .ok base) :
    StartsFrom fs (some path) base

/-- A configuration with the paths of the command line after its own, `files`, and with boxed types if
they are asked for. -/
def askedFor (base : Config) (files paths : List String) (boxed : Bool) : Config :=
  let config := base.put .schemaFiles (.array ((files ++ paths).map .text))
  if boxed then config.put .generateBoxedTypes (.bool true) else config

section

variable {base : Config} {files paths inline : List String} {boxed : Bool}

theorem get?_askedFor_schemaFiles :
    (askedFor base files paths boxed).get? .schemaFiles =
      some (.array ((files ++ paths).map .text)) := by
  cases boxed <;> simp [askedFor, Config.get?_put]

theorem get?_askedFor {field : Config.Field} (hfiles : field ≠ .schemaFiles)
    (hboxed : field ≠ .generateBoxedTypes) :
    (askedFor base files paths boxed).get? field = base.get? field := by
  cases boxed <;> simp [askedFor, Config.get?_put, hfiles, hboxed]

theorem configuration_eq {fs : FileSystem} {file : Option String} (hstart : StartsFrom fs file base)
    (hfiles : base.get? .schemaFiles = some (.array (files.map .text))) :
    configuration fs file boxed paths = .ok (askedFor base files paths boxed) := by
  have hget : base.get .schemaFiles = .ok (.array (files.map .text)) := by
    rw [Config.get, hfiles]
  cases hstart with
  | standard =>
    rw [configuration, askedFor, List.map_append]
    refine bind_eq_ok.mpr ⟨_, rfl, bind_eq_ok.mpr ⟨_, mapError_eq_ok.mpr hget, ?_⟩⟩
    cases boxed <;> rfl
  | file h =>
    rw [configuration, askedFor, List.map_append]
    refine bind_eq_ok.mpr ⟨_, mapError_eq_ok.mpr h, bind_eq_ok.mpr ⟨_, mapError_eq_ok.mpr hget, ?_⟩⟩
    cases boxed <;> rfl

end

/-! ## Failures -/

/-- The errors of a session that are reported, with what tells of them: a class name or a directive is
at fault, a source is no GraphQL, or there is nothing at a path. -/
inductive Reports : SessionError → String → Prop
  | configuration (e : ConfigurationError) : Reports (.configuration e) e.message
  | syntaxError (e : GraphQL.SyntaxError) : Reports (.schema e) e.report
  | missing (path : String) : Reports (.sources (.missing path)) (missingPathMessage path)

/-- The first failure, if it is reported: that of the session, and after it that of the type
reference. -/
inductive FirstReported (fs : FileSystem) (c : Config) (type : String) : String → Prop
  | session {e : SessionError} {message : String} (h : Session.ofConfig fs c = .error e)
    (hreports : Reports e message) : FirstReported fs c type message
  | type {s : Session} {e : GraphQL.SyntaxError} (h : Session.ofConfig fs c = .ok s)
    (hparse : TypeExpr.parse type = .error e) : FirstReported fs c type e.report

/-- Whether a type reference has an answer: there is a session, the reference can be read, and its type
can be written and looked up. -/
structure Answers (fs : FileSystem) (c : Config) (type : String) (s : Session) (e : TypeExpr) : Prop where
  session : Session.ofConfig fs c = .ok s
  parse : TypeExpr.parse type = .ok e
  bytes : s.HasBytes e
  key : s.HasKey e

/-- The failures that are let through: a source file is not UTF-8, a path is too long, there are no bytes
for the type, or it cannot be told whether values of it are written as strings. -/
inductive Escapes (fs : FileSystem) (c : Config) (type : String) : Crash → Prop
  | undecodable (h : Session.ofConfig fs c = .error (.sources .undecodable)) :
    Escapes fs c type .undecodable
  | tooLongPath (h : Session.ofConfig fs c = .error (.sources .tooLong)) :
    Escapes fs c type .tooLongPath
  | unencodable {s : Session} {e : TypeExpr} (h : Session.ofConfig fs c = .ok s)
    (hparse : TypeExpr.parse type = .ok e) (hbytes : ¬s.HasBytes e) : Escapes fs c type .unencodable
  | noKey {s : Session} {e : TypeExpr} (h : Session.ofConfig fs c = .ok s)
    (hparse : TypeExpr.parse type = .ok e) (hkey : ¬s.HasKey e) : Escapes fs c type .noKey

section

variable {fs : FileSystem} {c : Config} {type : String}

/-- Whether the configured class names are given texts under given names, both perhaps broken. -/
def MapsTexts (c : Config) (m : OrderedMap Json.Name Json.Name) : Prop :=
  c.get? .typeMapping = some (.object (m.entries.map fun e => (e.1, e.2.toJson)))

theorem MapsTexts.exists_mapping {m : OrderedMap Json.Name Json.Name} (h : MapsTexts c m) :
    ∃ explicit, c.mapping = .ok explicit ∧ explicit.HasTextsOnly := by
  refine ⟨_, ?_, Json.Table.hasTextsOnly_ofMembers m⟩
  have hget : c.get .typeMapping = .ok (.object (m.entries.map fun e => (e.1, e.2.toJson))) := by
    rw [Config.get, h]
  exact bind_eq_ok.mpr ⟨_, hget, mapError_eq_ok.mpr (Json.table_object _)⟩

/-- A session for a given schema and for class names that are texts can only fail for a reason that is
reported. -/
theorem create_error_of_texts {m : OrderedMap Json.Name Json.Name} (hm : MapsTexts c m)
    {schema given : Schema} {e : SessionError}
    (h : Session.create fs c schema .standard (some given) = .error e) : ∃ e', e = .configuration e' := by
  obtain ⟨explicit, hmapping, hexplicit⟩ := hm.exists_mapping
  rcases bind_eq_error.mp h with h | ⟨_, -, h⟩
  · simp only [OverrideTable.build, Schema.scanned, bind_eq_error, mapError_eq_error, hmapping] at h
    rcases h with h | ⟨_, -, ⟨e', -, rfl⟩ | ⟨_, -, ⟨_, h, -⟩ | ⟨_, hexplicit', e', hmake, rfl⟩⟩⟩
    · cases h
    · exact ⟨e', rfl⟩
    · cases h
    · cases hexplicit'
      obtain ⟨e', rfl⟩ := OverrideTable.make_error_of_texts hexplicit
        (Json.Table.hasTextsOnly_ofTexts _) hmake
      exact ⟨e', rfl⟩
  · cases h

/-- A session for sources and class names that are texts can only fail for a reason that is reported,
or because of what is in the files. -/
theorem reports_or_escapes {paths inline : List String} {m : OrderedMap Json.Name Json.Name}
    (hfiles : c.get? .schemaFiles = some (.array (paths.map .text)))
    (hinline : c.get? .schemas = some (.array (inline.map .text))) (hm : MapsTexts c m)
    {e : SessionError} (h : Session.ofConfig fs c = .error e) :
    (∃ message, Reports e message) ∨ e = .sources .undecodable ∨ e = .sources .tooLong := by
  -- Either the sources give no schema, or the session cannot be made of it.
  rcases bind_eq_error.mp h with h | ⟨schema, -, h⟩
  · rcases Schema.ofSources_eq_error_iff.mp h with ⟨e, hload, rfl⟩ | ⟨_, -, e, -, rfl⟩
    · rw [loadSources_eq hfiles hinline, bind_eq_error, mapM_eq_error_iff] at hload
      rcases hload with ⟨_, path, _, -, -, hfails⟩ | ⟨_, -, h⟩
      · cases textsAt_eq_error_iff.mp hfails with
        | missing => exact .inl ⟨_, .missing _⟩
        | tooLong => exact .inr (.inr rfl)
        | outOfReach => exact .inr (.inr rfl)
        | undecodable => exact .inr (.inl rfl)
      · cases h
    · exact .inl ⟨_, .syntaxError e⟩
  · obtain ⟨e', rfl⟩ := create_error_of_texts hm h
    exact .inl ⟨_, .configuration e'⟩

theorem resolveIn_of_answers {s : Session} {e : TypeExpr} (h : Answers fs c type s e)
    {interface wildcard : Bool} {java : JavaType} (hresolve : s.resolve interface wildcard e = .ok java) :
    resolveIn fs c type interface wildcard = .printed (printout java (s.isStringInput java)) := by
  have hwritable := (Session.isWritable_resolve_iff h.session hresolve).mpr h.bytes
  have hisKey := (Session.isKey_resolve_iff h.session hresolve).mpr h.key
  have hlookup : s.isStringInput? java = some (s.isStringInput java) := if_pos hisKey
  simp only [resolveIn, h.session, h.parse, hresolve, hlookup, if_pos hwritable]

theorem resolveIn_of_firstReported {message : String} (h : FirstReported fs c type message)
    (interface wildcard : Bool) : resolveIn fs c type interface wildcard = .failed message := by
  cases h with
  | session h hreports =>
    simp only [resolveIn, h]
    cases hreports <;> rfl
  | type h hparse => simp only [resolveIn, h, hparse]

theorem resolveIn_of_escapes {crash : Crash} (h : Escapes fs c type crash)
    (interface wildcard : Bool) : resolveIn fs c type interface wildcard = .crashed crash := by
  cases h with
  | undecodable h =>
    simp only [resolveIn, h]
    rfl
  | tooLongPath h =>
    simp only [resolveIn, h]
    rfl
  | @unencodable s e h hparse hbytes =>
    obtain ⟨java, hresolve⟩ := s.exists_resolve interface wildcard e
    have hwritable := mt (Session.isWritable_resolve_iff h hresolve).mp hbytes
    simp only [resolveIn, h, hparse, hresolve, if_neg hwritable]
  | @noKey s e h hparse hkey =>
    obtain ⟨java, hresolve⟩ := s.exists_resolve interface wildcard e
    have hwritable := (Session.isWritable_resolve_iff h hresolve).mpr
      (Session.hasBytes_of_not_hasKey hkey)
    have hisKey := mt (Session.isKey_resolve_iff h hresolve).mp hkey
    have hlookup : s.isStringInput? java = none := if_neg hisKey
    simp only [resolveIn, h, hparse, hresolve, hlookup, if_pos hwritable]

/-- The command prints an answer, reports the first failure or lets it through. -/
theorem answers_or_fails {paths inline : List String} {m : OrderedMap Json.Name Json.Name}
    (hfiles : c.get? .schemaFiles = some (.array (paths.map .text)))
    (hinline : c.get? .schemas = some (.array (inline.map .text))) (hm : MapsTexts c m)
    (type : String) :
    (∃ s e, Answers fs c type s e) ∨ (∃ message, FirstReported fs c type message) ∨
      ∃ crash, Escapes fs c type crash := by
  cases h : Session.ofConfig fs c with
  | error e =>
    rcases reports_or_escapes hfiles hinline hm h with ⟨message, hreports⟩ | rfl | rfl
    · exact .inr (.inl ⟨message, .session h hreports⟩)
    · exact .inr (.inr ⟨_, .undecodable h⟩)
    · exact .inr (.inr ⟨_, .tooLongPath h⟩)
  | ok s =>
    cases hparse : TypeExpr.parse type with
    | error e => exact .inr (.inl ⟨_, .type h hparse⟩)
    | ok e =>
      by_cases hbytes : s.HasBytes e
      · by_cases hkey : s.HasKey e
        · exact .inl ⟨s, e, h, hparse, hbytes, hkey⟩
        · exact .inr (.inr ⟨_, .noKey h hparse hkey⟩)
      · exact .inr (.inr ⟨_, .unencodable h hparse hbytes⟩)

end

/-! ## How the command ends -/

/-- How the command ends: it prints an answer, reports the first failure or lets it through. -/
inductive Ends (fs : FileSystem) (c : Config) (type : String) (interface wildcard : Bool) :
    Outcome → Prop
  | answers {s : Session} {e : TypeExpr} {java : JavaType} (h : Answers fs c type s e)
    (hresolve : s.resolve interface wildcard e = .ok java) :
    Ends fs c type interface wildcard (.printed (printout java (s.isStringInput java)))
  | reports {message : String} (h : FirstReported fs c type message) :
    Ends fs c type interface wildcard (.failed message)
  | escapes {crash : Crash} (h : Escapes fs c type crash) :
    Ends fs c type interface wildcard (.crashed crash)

theorem resolveIn_ends {fs : FileSystem} {c : Config} {paths inline : List String}
    {m : OrderedMap Json.Name Json.Name}
    (hfiles : c.get? .schemaFiles = some (.array (paths.map .text)))
    (hinline : c.get? .schemas = some (.array (inline.map .text))) (hm : MapsTexts c m)
    (type : String) (interface wildcard : Bool) :
    Ends fs c type interface wildcard (resolveIn fs c type interface wildcard) := by
  rcases answers_or_fails hfiles hinline hm type with ⟨s, e, h⟩ | ⟨message, h⟩ | ⟨crash, h⟩
  · obtain ⟨java, hresolve⟩ := s.exists_resolve interface wildcard e
    rw [resolveIn_of_answers h hresolve]
    exact .answers h hresolve
  · rw [resolveIn_of_firstReported h]
    exact .reports h
  · rw [resolveIn_of_escapes h]
    exact .escapes h

section

variable {fs : FileSystem} {c : Config} {type : String} {interface wildcard : Bool} {outcome : Outcome}
  (h : Ends fs c type interface wildcard outcome)
include h

theorem Ends.exists_answers (hzero : outcome.exitCode = 0) : ∃ s e, Answers fs c type s e := by
  cases h with
  | answers h => exact ⟨_, _, h⟩
  | reports h => exact absurd hzero (by decide : (1 : UInt32) ≠ 0)
  | escapes h => exact absurd hzero (by decide : (1 : UInt32) ≠ 0)

theorem Ends.exists_firstReported {report : String} (hreport : outcome.report? = some report) :
    ∃ message, FirstReported fs c type message := by
  cases h with
  | answers h => cases hreport
  | reports h => exact ⟨_, h⟩
  | escapes h => cases hreport

theorem Ends.escapes_of_crashed {crash : Crash} (hcrash : outcome = .crashed crash) :
    Escapes fs c type crash := by
  cases h with
  | answers h => cases hcrash
  | reports h => cases hcrash
  | escapes h =>
    cases hcrash
    exact h

end

/-- The answer for a Java type: what is printed if nothing of it is left out. -/
def answerText (java : JavaType) (stringInput : Bool) : String :=
  java.spelling ++ "\nstring input: " ++ (if stringInput then "yes" else "no") ++ "\n"

theorem isPlain_answerText {java : JavaType} (h : IsPlain java.spelling) (stringInput : Bool) :
    IsPlain (answerText java stringInput) := by
  rw [answerText, String.append_assoc, String.append_assoc]
  exact h.append (by cases stringInput <;> decide +kernel)

theorem errorReport_eq (message : String) :
    errorReport message = "Error: " ++ written (message ++ "\n") := by
  rw [errorReport, String.append_assoc, written_append (by decide +kernel)]

end Command

end TypeAtlas
