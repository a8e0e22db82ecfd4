import LoxSyntax.Config.Settings
import Mathlib.Data.List.TakeWhile

/-!
# Layers of configuration win setting by setting

A document of sections changes the settings it gives and no others, so behind any layers each
setting is the one of the last document that gives it. An output format given by itself is one more
document. Nothing but a layer that cannot be used stops this, and a layer whose file is missing
strays to the one of its name with an ending.
-/
namespace LoxSyntax

namespace Toml.Value

def isScalar : Value → Bool
  | scalar _ => true
  | _ => false

private theorem exists_eq_scalar {value : Value} (h : value.isScalar = true) :
    ∃ s, value = scalar s := by
  cases value with
  | scalar s => exact ⟨s, rfl⟩
  | array | table => cases h

end Toml.Value

namespace Config

abbrev Document := List (String × Toml.Value)

section Names

variable {α : Type}

/-- The first entry under a name, up to case. -/
def byName? (entries : List (String × α)) (name : String) : Option α :=
  (entries.find? fun e => foldCase e.1 = foldCase name).map (·.2)

/-- No two names are equal up to case. -/
def Distinct (entries : List (String × α)) : Prop := (entries.map fun e => foldCase e.1).Nodup

instance (entries : List (String × α)) : Decidable (Distinct entries) :=
  List.nodupDecidable _

variable {entries : List (String × α)} {key name : String} {x : α}

private theorem byName?_nil (name : String) : byName? ([] : List (String × α)) name = none := rfl

private theorem byName?_cons :
    byName? ((key, x) :: entries) name =
      if foldCase name = foldCase key then some x else byName? entries name := by
  by_cases same : foldCase key = foldCase name
  · simp [byName?, same]
  · simp [byName?, same, Ne.symm same]

private theorem mem_of_byName? (found : byName? entries name = some x) :
    ∃ key, (key, x) ∈ entries := by
  obtain ⟨e, first, rfl⟩ := Option.map_eq_some_iff.1 found
  exact ⟨e.1, List.mem_of_find?_eq_some first⟩

theorem Distinct.tail (h : Distinct ((key, x) :: entries)) : Distinct entries :=
  (List.nodup_cons.1 h).2

private theorem Distinct.byName?_eq_none (h : Distinct ((key, x) :: entries))
    (same : foldCase name = foldCase key) : byName? entries name = none := by
  have absent : foldCase key ∉ entries.map fun e => foldCase e.1 := (List.nodup_cons.1 h).1
  simp only [List.mem_map, not_exists, not_and] at absent
  simpa [byName?, same] using absent

end Names

namespace Document

/-- A table of scalars, no two of them under names alike up to case. -/
def IsSection : Toml.Value → Prop
  | .table fields => Distinct fields ∧ ∀ field ∈ fields, field.2.isScalar = true
  | _ => False

instance : DecidablePred IsSection
  | .table fields =>
    inferInstanceAs (Decidable (Distinct fields ∧ ∀ field ∈ fields, field.2.isScalar = true))
  | .scalar _ | .array _ => inferInstanceAs (Decidable False)

/-- A document of sections under plain names, no two of them alike up to case. -/
structure IsSectioned (doc : Document) : Prop where
  plain : ∀ e ∈ doc, e.1.toList.all isNameChar = true
  distinct : Distinct doc
  sections : ∀ e ∈ doc, IsSection e.2

instance : DecidablePred IsSectioned := fun doc =>
  decidable_of_iff ((∀ e ∈ doc, e.1.toList.all isNameChar = true) ∧ Distinct doc ∧
    ∀ e ∈ doc, IsSection e.2)
    ⟨fun ⟨plain, distinct, sections⟩ => ⟨plain, distinct, sections⟩,
      fun ⟨plain, distinct, sections⟩ => ⟨plain, distinct, sections⟩⟩

private theorem exists_fields_of_isSection {value : Toml.Value} (h : IsSection value) :
    ∃ fields, value = .table fields ∧ Distinct fields ∧
      ∀ field ∈ fields, field.2.isScalar = true := by
  cases value with
  | scalar | array => cases h
  | table fields => exact ⟨fields, rfl, h⟩

/-- The value that a document gives a setting of a section. -/
def setting? (doc : Document) (part name : String) : Option Toml.Scalar :=
  match byName? doc part with
  | some (.table fields) =>
    match byName? fields name with
    | some (.scalar value) => some value
    | _ => none
  | _ => none

end Document

/-- The value of a setting in the last of some documents that gives it one. -/
def lastSetting? (docs : List Document) (part name : String) : Option Toml.Scalar :=
  docs.reverse.findSome? (·.setting? part name)

private theorem lastSetting?_append (docs : List Document) (doc : Document) (part name : String) :
    lastSetting? (docs ++ [doc]) part name =
      (doc.setting? part name).or (lastSetting? docs part name) := by
  rw [lastSetting?, List.reverse_append, List.reverse_singleton, List.singleton_append,
    List.findSome?_cons]
  cases doc.setting? part name <;> rfl

private theorem lastSetting?_cons (docs : List Document) (doc : Document) (part name : String) :
    lastSetting? (doc :: docs) part name =
      (lastSetting? docs part name).or (doc.setting? part name) := by
  simp [lastSetting?, List.findSome?_append]

namespace Node

def IsTable : Node → Prop
  | table .. => True
  | _ => False

/-- What a tree has for a setting of a section. -/
def setting? (root : Node) (part name : String) : Option Node :=
  (root.get? part).bind (·.get? name)

variable {root target : Node} {origin : Option String} {key name part : String}

private theorem get?_congr (same : foldCase name = foldCase key) :
    root.get? name = root.get? key := by
  cases root <;> simp [get?, same]

private theorem get?_mergeAll {fields : Document} (distinct : Distinct fields)
    (scalars : ∀ field ∈ fields, field.2.isScalar = true) :
    (mergeAll target (Node.ofEntries origin fields)).get? name =
      ((byName? fields name).map (Node.ofToml origin)).or (target.get? name) := by
  induction fields generalizing target with
  | nil => rfl
  | cons field fields ih =>
    obtain ⟨key, value⟩ := field
    obtain ⟨scalar, others⟩ := List.forall_mem_cons.1 scalars
    obtain ⟨value, rfl⟩ := Toml.Value.exists_eq_scalar scalar
    rw [Node.ofEntries, mergeAll, ih distinct.tail others, byName?_cons, Node.ofToml, merge,
      get?_put]
    by_cases same : foldCase name = foldCase key
    · rw [distinct.byName?_eq_none same, if_pos same, if_pos same]
      rfl
    · rw [if_neg same, if_neg same]

private theorem isTable_put (node : Node) (name : String) (value : Node) :
    (node.put name value).IsTable := by
  cases node <;> trivial

private theorem isTable_mergeAll {fields : Document} (table : target.IsTable)
    (scalars : ∀ field ∈ fields, field.2.isScalar = true) :
    (mergeAll target (Node.ofEntries origin fields)).IsTable := by
  induction fields generalizing target with
  | nil => exact table
  | cons field fields ih =>
    obtain ⟨key, value⟩ := field
    obtain ⟨scalar, others⟩ := List.forall_mem_cons.1 scalars
    obtain ⟨value, rfl⟩ := Toml.Value.exists_eq_scalar scalar
    rw [Node.ofEntries, mergeAll, Node.ofToml, merge]
    exact ih (isTable_put target key _) others

end Node

private theorem pathOfKey_of_plain {name : String} (plain : name.toList.all isNameChar = true) :
    pathOfKey name = [.name name] := by
  rw [List.all_eq_true] at plain
  have whole : name.toList.takeWhile isNameChar = name.toList := List.takeWhile_eq_self_iff.2 plain
  have none : name.toList.dropWhile isNameChar = [] := List.dropWhile_eq_nil_iff.2 plain
  unfold pathOfKey nameStep?
  rw [whole, none]
  cases empty : name.toList.isEmpty with
  | true =>
    dsimp only
    rw [if_pos empty]
    rfl
  | false => simp [empty, moreSteps?]

/-- What a tree has for a section once a document is laid over it. -/
theorem get?_overlay {doc : Document} {origin : Option String} {root : Node} {part : String}
    (sectioned : doc.IsSectioned) :
    (overlay origin doc root).get? part =
      match byName? doc part with
      | some (.table fields) =>
        some (((root.get? part).getD .emptyTable).mergeAll (Node.ofEntries origin fields))
      | _ => root.get? part := by
  induction doc generalizing root with
  | nil => rfl
  | cons e doc ih =>
    obtain ⟨key, value⟩ := e
    obtain ⟨plain, others⟩ := List.forall_mem_cons.1 sectioned.plain
    obtain ⟨own, sections⟩ := List.forall_mem_cons.1 sectioned.sections
    obtain ⟨fields, rfl, -⟩ := Document.exists_fields_of_isSection own
    have step : overlay origin ((key, .table fields) :: doc) root =
        overlay origin doc (root.merge key (.table origin (Node.ofEntries origin fields))) := by
      rw [overlay, List.foldl_cons]
      dsimp only
      rw [pathOfKey_of_plain plain]
      rfl
    rw [step, ih ⟨others, sectioned.distinct.tail, sections⟩, Node.merge, Node.get?_put,
      byName?_cons]
    by_cases same : foldCase part = foldCase key
    · rw [sectioned.distinct.byName?_eq_none same, if_pos same, if_pos same, Node.get?_congr same]
    · rw [if_neg same, if_neg same]

/-- A tree has the settings of some documents, in tables, and no others. -/
structure Holds (docs : List Document) (root : Node) : Prop where
  section_isTable : ∀ part node, root.get? part = some node → node.IsTable
  setting : ∀ part name, root.setting? part name = (lastSetting? docs part name).map .scalar

variable {docs : List Document} {doc : Document} {root : Node}

private theorem holds_nil : Holds [] .emptyTable := ⟨nofun, fun _ _ => rfl⟩

/-- A document laid over a tree comes last. -/
theorem Holds.overlay (h : Holds docs root) (sectioned : doc.IsSectioned)
    (origin : Option String) : Holds (docs ++ [doc]) (overlay origin doc root) := by
  constructor
  · intro part node found
    rw [get?_overlay sectioned] at found
    split at found
    · rename_i fields own
      obtain ⟨key, mem⟩ := mem_of_byName? own
      have own : Document.IsSection (.table fields) := sectioned.sections _ mem
      obtain rfl := Option.some.inj found
      refine Node.isTable_mergeAll ?_ own.2
      cases below : root.get? part with
      | none => trivial
      | some node => exact h.section_isTable part node below
    · exact h.section_isTable part node found
  · intro part name
    rw [lastSetting?_append, Node.setting?, get?_overlay sectioned, Document.setting?]
    have below := h.setting part name
    cases own : byName? doc part with
    | none => simpa [Node.setting?] using below
    | some value =>
      obtain ⟨key, mem⟩ := mem_of_byName? own
      obtain ⟨fields, rfl, distinct, scalars⟩ :=
        Document.exists_fields_of_isSection (sectioned.sections _ mem)
      have lower : ((root.get? part).getD .emptyTable).get? name =
          (lastSetting? docs part name).map .scalar := by
        rw [← below, Node.setting?]
        cases root.get? part <;> rfl
      dsimp only
      rw [Option.bind_some, Node.get?_mergeAll distinct scalars, lower]
      cases field : byName? fields name with
      | none => rfl
      | some value =>
        obtain ⟨key, mem⟩ := mem_of_byName? field
        obtain ⟨value, rfl⟩ := Toml.Value.exists_eq_scalar (scalars _ mem)
        rfl

theorem Holds.readSetting {part name : String} {value : Toml.Scalar} (h : Holds docs root)
    (found : lastSetting? docs part name = some value) (expected : String) :
    readSetting root part name expected = .ok value.asText := by
  have own := h.setting part name
  rw [found, Node.setting?, Option.map_some, Option.bind_eq_some_iff] at own
  obtain ⟨node, part_eq, name_eq⟩ := own
  have table := h.section_isTable part node part_eq
  cases node with
  | nothing | scalar | array => cases table
  | table origin entries =>
    rw [Config.readSetting, part_eq]
    dsimp only
    rw [name_eq]
    rfl

namespace Layer

variable {d : Directory} {layer : Layer} {path : String} {entry : Entry}

/-- The text of the file found for a layer. -/
def text? (d : Directory) (layer : Layer) : Option String :=
  (locate d layer.file).bind fun found => found.2.readText.toOption

/-- The text of what lies under the very name of a layer. -/
def ownText? (d : Directory) (layer : Layer) : Option String := (d.readText layer.file).toOption

/-- The document of a layer that can be read and is one. -/
def document? (d : Directory) (layer : Layer) : Option Document :=
  (layer.text? d).bind Toml.parse

/-- Under the name of a layer there is no file, but under the name with an ending there is. -/
structure Strays (d : Directory) (layer : Layer) (path : String) : Prop where
  missing : d.file? layer.file = none
  ended : withEnding? layer.file = some path
  found : (d.file? path).isSome = true

/-- A layer cannot be used without a text where it is required, nor with one that is no document. -/
inductive Unusable (layer : Layer) : Option String → Prop
  | unread (required : layer.required = true) : Unusable layer none
  | malformed {text : String} (malformed : Toml.parse text = none) : Unusable layer (some text)

private theorem readText_of_file? (h : d.file? path = some entry) :
    d.readText path = entry.readText := by
  rw [Directory.file?] at h
  rw [Directory.readText]
  split at h
  · split at h
    · obtain rfl := Option.some.inj h
      rfl
    · cases h
  · cases h

private theorem readText_of_file?_eq_none (h : d.file? path = none) :
    (d.readText path).toOption = none := by
  rw [Directory.file?] at h
  rw [Directory.readText]
  split at h
  · split at h
    · cases h
    · rename_i entry _ other
      cases entry with
      | file | locked => exact absurd rfl other
      | directory => rfl
  · rfl

/-- The text of a layer is that of the file of its name, unless the layer strays. -/
theorem text?_eq (d : Directory) (layer : Layer) :
    layer.text? d = layer.ownText? d ∨
      ∃ path, layer.Strays d path ∧ layer.ownText? d = none ∧
        layer.text? d = (d.readText path).toOption := by
  rw [text?, locate, candidates, List.findSome?_cons, ownText?]
  cases own : d.file? layer.file with
  | some entry => exact .inl (by rw [readText_of_file? own]; rfl)
  | none =>
    rw [readText_of_file?_eq_none own]
    cases ended : withEnding? layer.file with
    | none => exact .inl rfl
    | some path =>
      cases found : d.file? path with
      | none => exact .inl (by simp [found])
      | some entry =>
        refine .inr ⟨path, ⟨own, ended, by rw [found]; rfl⟩, rfl, ?_⟩
        rw [readText_of_file? found]
        simp [found]

private theorem readFile_eq (d : Directory) (layer : Layer) :
    (∃ path text, readFile d layer.file = .ok (path, text) ∧ layer.text? d = some text) ∨
      ((∃ e, readFile d layer.file = .error e) ∧ layer.text? d = none) := by
  rw [readFile, text?]
  cases locate d layer.file with
  | none => exact .inr ⟨⟨_, rfl⟩, rfl⟩
  | some found =>
    obtain ⟨path, entry⟩ := found
    rw [Option.bind_some]
    cases read : entry.readText with
    | error cause => exact .inr ⟨⟨.unreadable cause, by simp [read]⟩, rfl⟩
    | ok text => exact .inl ⟨shownPath path, text, by simp [read], rfl⟩

private theorem apply_of_unusable (unusable : layer.Unusable (layer.text? d)) (root : Node) :
    ∃ e, layer.apply d root = .error e := by
  rw [apply]
  rcases readFile_eq d layer with ⟨path, text, read, own⟩ | ⟨⟨e, read⟩, own⟩
  · rw [own] at unusable
    cases unusable with
    | malformed malformed => exact ⟨.badSyntax path, by rw [read]; simp [malformed]⟩
  · rw [own] at unusable
    cases unusable with
    | unread required => exact ⟨e, by rw [read]; simp [required]⟩

private theorem apply_of_usable (usable : ¬layer.Unusable (layer.text? d)) (root : Node) :
    (∃ origin doc, layer.document? d = some doc ∧
        layer.apply d root = .ok (overlay origin doc root)) ∨
      (layer.document? d = none ∧ layer.apply d root = .ok root) := by
  rw [apply, document?]
  rcases readFile_eq d layer with ⟨path, text, read, own⟩ | ⟨⟨e, read⟩, own⟩
  · rw [own] at usable ⊢
    cases parsed : Toml.parse text with
    | none => exact absurd (.malformed parsed) usable
    | some doc =>
      refine .inl ⟨some path, doc, parsed, ?_⟩
      rw [read]
      simp [parsed]
  · rw [own] at usable ⊢
    have optional : ¬layer.required = true := fun required => usable (.unread required)
    refine .inr ⟨rfl, ?_⟩
    rw [read]
    simp [optional]

end Layer

section Runs

variable {d : Directory} {layers : List Layer}

theorem Holds.apply {layer : Layer} (h : Holds docs root) (usable : ¬layer.Unusable (layer.text? d))
    (sectioned : ∀ doc, layer.document? d = some doc → doc.IsSectioned) :
    ∃ root', layer.apply d root = .ok root' ∧ Holds (docs ++ (layer.document? d).toList) root' := by
  rcases layer.apply_of_usable usable root with ⟨origin, doc, own, applied⟩ | ⟨none, applied⟩
  · refine ⟨_, applied, ?_⟩
    rw [own]
    exact h.overlay (sectioned doc own) origin
  · refine ⟨root, applied, ?_⟩
    rw [none, Option.toList_none, List.append_nil]
    exact h

/-- Layers that can be used lay their documents over the tree in order. -/
theorem Holds.foldlM_apply (h : Holds docs root)
    (usable : ∀ layer ∈ layers, ¬layer.Unusable (layer.text? d))
    (sectioned : ∀ layer ∈ layers, ∀ doc, layer.document? d = some doc → doc.IsSectioned) :
    ∃ root', layers.foldlM (Layer.apply d) root = .ok root' ∧
      Holds (docs ++ layers.filterMap (Layer.document? d)) root' := by
  induction layers generalizing docs root with
  | nil => exact ⟨root, rfl, by rwa [List.filterMap_nil, List.append_nil]⟩
  | cons layer layers ih =>
    obtain ⟨usable, others⟩ := List.forall_mem_cons.1 usable
    obtain ⟨own, rest⟩ := List.forall_mem_cons.1 sectioned
    obtain ⟨root', applied, holds⟩ := h.apply usable own
    obtain ⟨root'', folded, later⟩ := ih holds others rest
    refine ⟨root'', ?_, ?_⟩
    · rw [List.foldlM_cons, applied]
      exact folded
    · rw [List.append_assoc] at later
      have front : List.filterMap (Layer.document? d) (layer :: layers) =
          (layer.document? d).toList ++ layers.filterMap (Layer.document? d) := by
        cases own : layer.document? d <;> simp [own]
      rwa [front]

/-- A layer that cannot be used stops the run, whatever lies below or above it. -/
theorem exists_error_of_unusable {layer : Layer} (mem : layer ∈ layers)
    (unusable : layer.Unusable (layer.text? d)) (root : Node) :
    ∃ e, layers.foldlM (Layer.apply d) root = .error e := by
  induction layers generalizing root with
  | nil => cases mem
  | cons first layers ih =>
    rw [List.foldlM_cons]
    cases applied : first.apply d root with
    | error e => exact ⟨e, rfl⟩
    | ok root' =>
      rcases List.mem_cons.1 mem with rfl | mem
      · obtain ⟨e, refused⟩ := layer.apply_of_unusable unusable root
        rw [refused] at applied
        cases applied
      · exact ih mem root'

end Runs

/-- An output format given by itself, as a document. -/
def formatDocument (format : String) : Document :=
  [("output", .table [("format", .scalar (.text format))])]

private theorem isSectioned_formatDocument (format : String) :
    (formatDocument format).IsSectioned := by
  refine ⟨?_, by simp [Distinct, formatDocument], ?_⟩
  · simp [formatDocument, isNameChar]
  · simp [formatDocument, Document.IsSection, Distinct, Toml.Value.isScalar]

private theorem setting?_formatDocument (format part name : String) :
    (formatDocument format).setting? part name =
      if foldCase part = "output" ∧ foldCase name = "format" then some (.text format)
      else none := by
  have own : foldCase "output" = "output" ∧ foldCase "format" = "format" := by decide +kernel
  rw [formatDocument, Document.setting?, byName?_cons, byName?_nil, own.1]
  by_cases output : foldCase part = "output"
  · rw [if_pos output]
    dsimp only
    rw [byName?_cons, byName?_nil, own.2]
    by_cases named : foldCase name = "format" <;> simp [output, named]
  · simp [output]

private theorem set_format_eq_overlay (root : Node) (format : String) :
    root.set [.name "output", .name "format"] (.scalar (.text format)) =
      overlay none (formatDocument format) root := by
  have own : pathOfKey "output" = [.name "output"] := pathOfKey_of_plain (by decide)
  have laid : overlay none (formatDocument format) root = root.put "output"
      (((root.get? "output").getD .emptyTable).merge "format" (.scalar (.text format))) := by
    change root.set (pathOfKey "output") _ = _
    rw [own]
    rfl
  have given : root.set [.name "output", .name "format"] (.scalar (.text format)) =
      root.put "output"
        (((root.get? "output").getD .nothing).merge "format" (.scalar (.text format))) := rfl
  rw [laid, given]
  cases root.get? "output" <;> rfl

private theorem isSectioned_defaults : Document.IsSectioned defaults := by decide +kernel

/-- The documents of the layers that have one, above the defaults. -/
def documents (d : Directory) (layers : List Layer) : List Document :=
  defaults :: layers.filterMap (Layer.document? d)

/-- The text of a setting in the last layer that gives it one. -/
def lastText? (d : Directory) (layers : List Layer) (part name : String) : Option String :=
  (lastSetting? (documents d layers) part name).map (·.asText)

section Loading

variable {d : Directory} {layers : List Layer}

private theorem exists_lastSetting (d : Directory) (layers : List Layer) (part name : String)
    (given : (Document.setting? defaults part name).isSome = true) :
    ∃ value, lastSetting? (documents d layers) part name = some value := by
  obtain ⟨value, given⟩ := Option.isSome_iff_exists.1 given
  rw [documents, lastSetting?_cons, given]
  cases lastSetting? (layers.filterMap (Layer.document? d)) part name with
  | none => exact ⟨value, rfl⟩
  | some above => exact ⟨above, rfl⟩

theorem Holds.readSettings {prompt format level : Toml.Scalar} (h : Holds docs root)
    (prompts : lastSetting? docs "repl" "prompt" = some prompt)
    (formats : lastSetting? docs "output" "format" = some format)
    (levels : lastSetting? docs "logging" "level" = some level) :
    readSettings root = .ok ⟨prompt.asText, format.asText, level.asText⟩ := by
  rw [Config.readSettings, h.readSetting prompts, h.readSetting formats, h.readSetting levels]
  rfl

/-- Layers that can be used give settings. -/
theorem exists_load_eq_ok (format : Option String)
    (usable : ∀ layer ∈ layers, ¬layer.Unusable (layer.text? d))
    (sectioned : ∀ layer ∈ layers, ∀ doc, layer.document? d = some doc → doc.IsSectioned) :
    ∃ s, load d layers format = .ok s ∧
      lastText? d layers "repl" "prompt" = some s.prompt ∧
      format.or (lastText? d layers "output" "format") = some s.format ∧
      lastText? d layers "logging" "level" = some s.level := by
  obtain ⟨prompt, prompts⟩ := exists_lastSetting d layers "repl" "prompt" rfl
  obtain ⟨below, formats⟩ := exists_lastSetting d layers "output" "format" rfl
  obtain ⟨level, levels⟩ := exists_lastSetting d layers "logging" "level" rfl
  obtain ⟨root, folded, holds⟩ :=
    (holds_nil.overlay isSectioned_defaults none).foldlM_apply usable sectioned
  have whole : Holds (documents d layers) root := holds
  rw [load, folded, lastText?, lastText?, lastText?, prompts, formats, levels]
  cases format with
  | none => exact ⟨_, whole.readSettings prompts formats levels, rfl, rfl, rfl⟩
  | some format =>
    have others (part name : String)
        (other : ¬(foldCase part = "output" ∧ foldCase name = "format")) :
        lastSetting? (documents d layers ++ [formatDocument format]) part name =
          lastSetting? (documents d layers) part name := by
      rw [lastSetting?_append, setting?_formatDocument, if_neg other, Option.none_or]
    have own : lastSetting? (documents d layers ++ [formatDocument format]) "output" "format" =
        some (.text format) := by
      rw [lastSetting?_append, setting?_formatDocument, if_pos (by decide +kernel), Option.some_or]
    have last : Holds (documents d layers ++ [formatDocument format]) _ :=
      whole.overlay (isSectioned_formatDocument format) none
    refine ⟨⟨prompt.asText, format, level.asText⟩, ?_, rfl, rfl, rfl⟩
    change readSettings (root.set [.name "output", .name "format"] (.scalar (.text format))) = _
    rw [set_format_eq_overlay]
    exact last.readSettings ((others _ _ (by decide +kernel)).trans prompts) own
      ((others _ _ (by decide +kernel)).trans levels)

/-- A layer that cannot be used refuses settings. -/
theorem exists_load_eq_error {layer : Layer} (format : Option String) (mem : layer ∈ layers)
    (unusable : layer.Unusable (layer.text? d)) : ∃ e, load d layers format = .error e := by
  obtain ⟨e, stopped⟩ := exists_error_of_unusable mem unusable (overlay none defaults .emptyTable)
  exact ⟨e, by rw [load, stopped]; rfl⟩

private theorem load_eq_ok_of_toOption {format : Option String} {s : Settings}
    (h : (load d layers format).toOption = some s) : load d layers format = .ok s := by
  cases loaded : load d layers format with
  | error e =>
    rw [loaded] at h
    cases h
  | ok s' =>
    rw [loaded] at h
    rw [Option.some.inj h]

private theorem isSectioned_of_all
    (each : ∀ layer ∈ layers, (layer.document? d).all (fun doc => decide doc.IsSectioned)) :
    ∀ layer ∈ layers, ∀ doc, layer.document? d = some doc → doc.IsSectioned := by
  intro layer mem doc own
  have all := each layer mem
  rw [own] at all
  exact of_decide_eq_true all

/-- Settings are refused exactly if some layer cannot be used: a required one that has no text, or
one whose text is no document. The text of a layer is that of the file of its name, unless there is
none and the layer strays to one under a name with an ending. Settings that are not refused are each
the text of the last layer that gives it, above the defaults, but for an output format given by
itself. -/
theorem load_layers (d : Directory) (layers : List Layer) (format : Option String)
    (sectioned : ∀ layer ∈ layers, ∀ doc, layer.document? d = some doc → doc.IsSectioned) :
    ((∃ e, load d layers format = .error e) ↔
        ∃ layer ∈ layers, layer.Unusable (layer.text? d)) ∧
      (∀ layer ∈ layers, layer.text? d = layer.ownText? d ∨
        ∃ path, layer.Strays d path ∧ layer.ownText? d = none ∧
          layer.text? d = (d.readText path).toOption) ∧
      ∀ s, load d layers format = .ok s →
        lastText? d layers "repl" "prompt" = some s.prompt ∧
        format.or (lastText? d layers "output" "format") = some s.format ∧
        lastText? d layers "logging" "level" = some s.level := by
  refine ⟨?_, fun layer _ => layer.text?_eq d, fun s loaded => ?_⟩
  · constructor
    · rintro ⟨e, refused⟩
      by_contra none
      obtain ⟨s, loaded, -⟩ := exists_load_eq_ok format
        (fun layer mem unusable => none ⟨layer, mem, unusable⟩) sectioned
      rw [refused] at loaded
      cases loaded
    · rintro ⟨layer, mem, unusable⟩
      exact exists_load_eq_error format mem unusable
  · have usable : ∀ layer ∈ layers, ¬layer.Unusable (layer.text? d) := by
      intro layer mem unusable
      obtain ⟨e, refused⟩ := exists_load_eq_error format mem unusable
      rw [refused] at loaded
      cases loaded
    obtain ⟨s', loaded', own⟩ := exists_load_eq_ok format usable sectioned
    rw [loaded] at loaded'
    obtain rfl := Except.ok.inj loaded'
    exact own

/-- A project file and three others that each give some settings, one of them under names in another
case and one as a number, and a setting that no one knows; the last of them is found under a name
with an ending. -/
theorem load_layers_partial_files :
    ∃ d layers, d = Directory.ofEntries
        [("lox.toml", .file
            "[output]\nformat = \"token-yaml\"\n[logging]\nlevel = \"error\"\n".toUTF8),
          ("a.toml", .file "[Output]\nFORMAT = \"ast-json\"\nwidth = 80\n".toUTF8),
          ("b.toml", .file "[repl]\nprompt = 7\n".toUTF8),
          ("c.toml", .file "[logging]\nlevel = \"info\"\n".toUTF8)] ∧
      layers = [⟨projectFile, false⟩, ⟨"a.toml", true⟩, ⟨"b.toml", true⟩, ⟨"c", true⟩] ∧
      (∀ layer ∈ layers, ∀ doc, layer.document? d = some doc → doc.IsSectioned) ∧
      load d layers none = .ok ⟨"7", "ast-json", "info"⟩ ∧
      (¬∃ layer ∈ layers, layer.Unusable (layer.text? d)) ∧
      (∀ layer ∈ layers, layer.text? d = layer.ownText? d ∨
        ∃ path, layer.Strays d path ∧ layer.ownText? d = none ∧
          layer.text? d = (d.readText path).toOption) ∧
      lastText? d layers "repl" "prompt" = some "7" ∧
      lastText? d layers "output" "format" = some "ast-json" ∧
      lastText? d layers "logging" "level" = some "info" := by
  let d := Directory.ofEntries
    [("lox.toml", .file
        "[output]\nformat = \"token-yaml\"\n[logging]\nlevel = \"error\"\n".toUTF8),
      ("a.toml", .file "[Output]\nFORMAT = \"ast-json\"\nwidth = 80\n".toUTF8),
      ("b.toml", .file "[repl]\nprompt = 7\n".toUTF8),
      ("c.toml", .file "[logging]\nlevel = \"info\"\n".toUTF8)]
  let layers : List Layer := [⟨projectFile, false⟩, ⟨"a.toml", true⟩, ⟨"b.toml", true⟩, ⟨"c", true⟩]
  have sectioned : ∀ layer ∈ layers, ∀ doc, layer.document? d = some doc → doc.IsSectioned :=
    isSectioned_of_all (by decide +kernel)
  have loaded : load d layers none = .ok ⟨"7", "ast-json", "info"⟩ :=
    load_eq_ok_of_toOption (by decide +kernel)
  obtain ⟨refused, texts, settings⟩ := load_layers d layers none sectioned
  obtain ⟨prompts, formats, levels⟩ := settings _ loaded
  rw [Option.none_or] at formats
  refine ⟨d, layers, rfl, rfl, sectioned, loaded, fun unusable => ?_, texts, prompts, formats,
    levels⟩
  obtain ⟨e, stopped⟩ := refused.2 unusable
  rw [loaded] at stopped
  cases stopped

/-- A required file that is missing does not stop a run where one lies under its name with an
ending: refused settings are not those with a layer whose own file cannot be used. -/
theorem exists_load_of_missing_file :
    ∃ d layers, d = Directory.ofEntries
        [("a.toml", .file "[output]\nformat = \"token-simple\"\n".toUTF8)] ∧
      layers = [⟨projectFile, false⟩, ⟨"a", true⟩] ∧
      (∀ layer ∈ layers, ∀ doc, layer.document? d = some doc → doc.IsSectioned) ∧
      d.file? "a" = none ∧
      load d layers none = .ok ⟨"> ", "token-simple", "warn"⟩ ∧
      ¬((∃ e, load d layers none = .error e) ↔
        ∃ layer ∈ layers, layer.Unusable (layer.ownText? d)) := by
  let d := Directory.ofEntries
    [("a.toml", .file "[output]\nformat = \"token-simple\"\n".toUTF8)]
  let layers : List Layer := [⟨projectFile, false⟩, ⟨"a", true⟩]
  have sectioned : ∀ layer ∈ layers, ∀ doc, layer.document? d = some doc → doc.IsSectioned :=
    isSectioned_of_all (by decide +kernel)
  have missing : (d.file? "a").isNone = true := by decide +kernel
  have loaded : load d layers none = .ok ⟨"> ", "token-simple", "warn"⟩ :=
    load_eq_ok_of_toOption (by decide +kernel)
  have unread : Layer.Unusable ⟨"a", true⟩ (Layer.ownText? d ⟨"a", true⟩) := by
    have none : Layer.ownText? d ⟨"a", true⟩ = none := by decide +kernel
    rw [none]
    exact .unread rfl
  refine ⟨d, layers, rfl, rfl, sectioned, Option.isNone_iff_eq_none.1 missing, loaded,
    fun claimed => ?_⟩
  obtain ⟨e, refused⟩ := claimed.2 ⟨_, by simp [layers], unread⟩
  rw [loaded] at refused
  cases refused

/-- A project file that is no document stops a run, also where all its settings are given later. -/
example : load (.ofEntries [("lox.toml", .file "[".toUTF8),
      ("a.toml", .file "[repl]\nprompt = \"$\"".toUTF8)])
    [⟨projectFile, false⟩, ⟨"a.toml", true⟩] none matches .error (.badSyntax "lox.toml") := by
  decide +kernel

/-- The project file strays as well. -/
example : load (.ofEntries [("lox.toml.toml", .file "[".toUTF8)]) [⟨projectFile, false⟩] none
    matches .error (.badSyntax "lox.toml.toml") := by
  decide +kernel

end Loading

end Config

end LoxSyntax
