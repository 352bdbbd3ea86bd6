import Mathlib.Tactic.FinCases
import Sightline.Proofs.Json.Lookup
import Sightline.Proofs.Settings

/-! Settings read from a part of them: what is there is taken, and everything else keeps its default.

A value holds a part of the settings if it is an object in which some of their entries stand, in any order
and with any others between (`Json.Excerpt`). Main statement: `Settings.parse_excerpt`, by one lemma for each
section, which goes through its fields. -/

set_option autoImplicit false

namespace Sightline

open Json

namespace Json

/-- The value holds a part of the document. An object may leave out entries and have members of other names,
whatever these hold; an entry that stands in it holds a part of what the document has there. -/
inductive Excerpt : Document → Tree → Prop
  | natural {n : Nat} {numeral : Numeral} (digits : numeral.token = Bytes.ofText (Nat.repr n)) :
      Excerpt (.natural n) (.number numeral)
  | string {s : String} {spelling : Spelling} (spelt : spelling.text? = some s) :
      Excerpt (.string s) (.string spelling)
  | object {entries : List (String × Document)} {members : List (Spelling × Tree)}
      (named : ∀ member ∈ members, member.1.text?.isSome)
      (single : members.Pairwise fun one other =>
        ∀ entry ∈ entries, one.1.text? = some entry.1 → other.1.text? ≠ some entry.1)
      (kept : ∀ member ∈ members, ∀ entry ∈ entries, member.1.text? = some entry.1 →
        Excerpt entry.2 member.2) :
      Excerpt (.object entries) (.object members)

section

variable {α σ : Type} {overlay : (String → Option Tree) → σ} {field : RecordField σ}
  {entry : String × Document} {name : String} {document : Document}

/-- A part of the entry, read as the field, adds to the record what looking it up adds. -/
structure Restores (overlay : (String → Option Tree) → σ) (field : RecordField σ)
    (entry : String × Document) : Prop where
  name : entry.1 = field.name
  optional : field.required = false
  reads : ∀ tree, Excerpt entry.2 tree → ∃ change, Decides field.form.read tree (some change) ∧
    ∀ look, overlay (given look field.name tree) = change (overlay look)

theorem Restores.of_reads {form : Form α} {value : Tree → α} {set : α → σ → σ}
    (reads : ∀ tree, Excerpt document tree → Decides form.read tree (some (value tree)))
    (sets : ∀ look tree, overlay (given look name tree) = set (value tree) (overlay look)) :
    Restores overlay { name, form := form.map set } (name, document) where
  name := rfl
  optional := rfl
  reads tree excerpt :=
    ⟨set (value tree), (reads tree excerpt).map set, fun look => sets look tree⟩

theorem Restores.of_mem {fields : List (RecordField σ)} {entries : List (String × Document)}
    (restores : List.Forall₂ (Restores overlay) fields entries) (here : field ∈ fields) :
    ∃ entry ∈ entries, Restores overlay field entry := by
  induction restores with
  | nil => cases here
  | @cons first entry _ _ one _ ih =>
    rcases List.mem_cons.mp here with rfl | later
    · exact ⟨entry, List.mem_cons_self, one⟩
    · obtain ⟨other, known, restores⟩ := ih later
      exact ⟨other, List.mem_cons_of_mem _ known, restores⟩

/-- A record that is a part of what is written of it is what looking up its members makes of the
defaults. -/
theorem Excerpt.decides {title : String} {fields : List (RecordField σ)}
    {entries : List (String × Document)} {defaults : σ} {tree : Tree}
    (excerpt : Excerpt (.object entries) tree)
    (restores : List.Forall₂ (Restores overlay) fields entries)
    (begins : overlay (fun _ => none) = defaults)
    (ignores : ∀ look look' : String → Option Tree,
      (∀ field ∈ fields, look field.name = look' field.name) → overlay look = overlay look') :
    Decides (readRecord title fields defaults) tree (some (overlay (tree.member? ·))) := by
  cases excerpt with
  | @object _ members named single kept =>
    -- The members of an excerpt are read as the fields they restore, the unknown ones skipped.
    have tracks : Tracks fields (fun look => some (overlay look)) members := by
      refine ⟨named, single.imp fun {one other} apart field here => ?_, fun look look' same => ?_,
        fun member among field here spelt => ?_⟩
      · obtain ⟨entry, known, restores⟩ := Restores.of_mem restores here
        exact restores.name ▸ apart entry known
      · exact congrArg some (ignores look look' same)
      · obtain ⟨entry, known, restores⟩ := Restores.of_mem restores here
        have excerpt := kept member among entry known (restores.name.symm ▸ spelt)
        obtain ⟨change, decides, step⟩ := restores.reads member.2 excerpt
        exact ⟨some change, decides, fun look _ => congrArg some (step look)⟩
    have whole : verdictOf fields (fun look => some (overlay look)) members
        = some (overlay (Tree.lookup members)) := by
      refine if_pos fun field here required => ?_
      obtain ⟨entry, -, restores⟩ := Restores.of_mem restores here
      rw [restores.optional] at required
      cases required
    change Decides _ _ (some (overlay (Tree.lookup members)))
    rw [← whole]
    exact decides_object tracks (congrArg some begins)

end

/-! ### Values that are there as a whole -/

section

variable {α : Type} {tree : Tree}

theorem Excerpt.text_eq {s : String} (excerpt : Excerpt (.string s) tree) : tree.text? = some s := by
  cases excerpt with
  | string spelt => exact spelt

theorem Excerpt.decides_natural {kind : String} {limit n : Nat} {f : Nat → α} {value : α}
    (fits : n < limit) (word : limit ≤ wordLimit) (back : f n = value)
    (excerpt : Excerpt (.natural n) tree) :
    Decides ((Form.natural kind limit).map f).read tree (some value) := by
  cases excerpt with
  | @natural _ numeral digits =>
    have tokens : (Tree.number numeral).tokens = [Bytes.ofText (Nat.repr n)] := by
      rw [Tree.tokens, digits]
    have reads : Reads (Json.natural kind limit) (Bytes.ofText (Nat.repr n)) n :=
      reads_natural fits word
    exact back ▸ (Decides.of_reads reads tokens).map f

end

end Json

theorem Uuid.decides_excerpt (uuid : Uuid) (tree : Tree) (excerpt : Excerpt uuid.document tree) :
    Decides Uuid.form.read tree (some uuid) :=
  decides_textAs excerpt.text_eq (by rw [Uuid.parse_text]; rfl)

theorem word16_decides (n : UInt16) (tree : Tree) (excerpt : Excerpt (.natural n.toNat) tree) :
    Decides word16.read tree (some n) :=
  excerpt.decides_natural n.toNat_lt (by decide) UInt16.ofNat_toNat

theorem word32_decides (n : UInt32) (tree : Tree) (excerpt : Excerpt (.natural n.toNat) tree) :
    Decides word32.read tree (some n) :=
  excerpt.decides_natural n.toNat_lt (by decide) UInt32.ofNat_toNat

theorem word64_decides (n : UInt64) (tree : Tree) (excerpt : Excerpt (.natural n.toNat) tree) :
    Decides word64.read tree (some n) :=
  excerpt.decides_natural n.toNat_lt (Nat.le_refl _) UInt64.ofNat_toNat

theorem size64_decides (n : UInt64) (tree : Tree) (excerpt : Excerpt (.natural n.toNat) tree) :
    Decides size64.read tree (some n) :=
  excerpt.decides_natural n.toNat_lt (Nat.le_refl _) UInt64.ofNat_toNat

theorem text_decides (s : String) (tree : Tree) (excerpt : Excerpt (.string s) tree) :
    Decides Form.text.read tree (some s) :=
  excerpt.text_eq ▸ decides_stringAs "a string" tree

theorem Concurrency.decides_excerpt (policy : Concurrency) (tree : Tree)
    (excerpt : Excerpt (.string policy.name) tree) : Decides Concurrency.form.read tree (some policy) :=
  decides_oneOf excerpt.text_eq (by cases policy <;> rfl)

/-! ### Sections -/

namespace RadioSettings

def overlay (settings : RadioSettings) (look : String → Option Tree) : RadioSettings :=
  let standard : RadioSettings := {}
  let kept (name : String) : Bool := (look name).isSome
  { service := if kept "service_uuid" then settings.service else standard.service
    keepAlive := if kept "keep_alive_uuid" then settings.keepAlive else standard.keepAlive
    psm := if kept "psm" then settings.psm else standard.psm
    mtu := if kept "mtu" then settings.mtu else standard.mtu
    scanSeconds := if kept "scan_timeout_secs" then settings.scanSeconds else standard.scanSeconds
    frameLimit := if kept "max_frame_len" then settings.frameLimit else standard.frameLimit }

theorem restores (settings : RadioSettings) :
    List.Forall₂ (Restores settings.overlay) fields
      [("service_uuid", settings.service.document),
       ("keep_alive_uuid", settings.keepAlive.document),
       ("psm", .natural settings.psm.toNat),
       ("mtu", .natural settings.mtu.toNat),
       ("scan_timeout_secs", .natural settings.scanSeconds.toNat),
       ("max_frame_len", .natural settings.frameLimit.toNat)] := by
  refine .cons (.of_reads (Uuid.decides_excerpt settings.service) ?_) <|
    .cons (.of_reads (Uuid.decides_excerpt settings.keepAlive) ?_) <|
    .cons (.of_reads (word16_decides settings.psm) ?_) <|
    .cons (.of_reads (size64_decides settings.mtu) ?_) <|
    .cons (.of_reads (word64_decides settings.scanSeconds) ?_) <|
    .cons (.of_reads (word32_decides settings.frameLimit) ?_) .nil
  all_goals
    intro look tree
    simp [overlay, given]

theorem decides_excerpt (settings : RadioSettings) (tree : Tree)
    (excerpt : Excerpt settings.document tree) :
    Decides form.read tree (some (settings.overlay (tree.member? ·))) := by
  refine excerpt.decides settings.restores rfl fun look look' same => ?_
  simp only [fields, List.forall_mem_cons] at same
  simp [overlay, same]

end RadioSettings

namespace ServiceSettings

def overlay (settings : ServiceSettings) (look : String → Option Tree) : ServiceSettings :=
  let standard : ServiceSettings := {}
  let kept (name : String) : Bool := (look name).isSome
  { base := if kept "api_base" then settings.base else standard.base
    visionModel := if kept "vision_model" then settings.visionModel else standard.visionModel
    prompt := if kept "vision_prompt" then settings.prompt else standard.prompt
    detail := if kept "image_detail" then settings.detail else standard.detail
    speechModel := if kept "tts_model" then settings.speechModel else standard.speechModel
    voice := if kept "tts_voice" then settings.voice else standard.voice
    manner := if kept "tts_instructions" then settings.manner else standard.manner
    audioFormat := if kept "tts_response_format" then settings.audioFormat else standard.audioFormat
    timeoutSeconds :=
      if kept "request_timeout_secs" then settings.timeoutSeconds else standard.timeoutSeconds }

theorem restores (settings : ServiceSettings) :
    List.Forall₂ (Restores settings.overlay) fields
      [("api_base", .string settings.base),
       ("vision_model", .string settings.visionModel),
       ("vision_prompt", .string settings.prompt),
       ("image_detail", .string settings.detail),
       ("tts_model", .string settings.speechModel),
       ("tts_voice", .string settings.voice),
       ("tts_instructions", .string settings.manner),
       ("tts_response_format", .string settings.audioFormat),
       ("request_timeout_secs", .natural settings.timeoutSeconds.toNat)] := by
  refine .cons (.of_reads (text_decides settings.base) ?_) <|
    .cons (.of_reads (text_decides settings.visionModel) ?_) <|
    .cons (.of_reads (text_decides settings.prompt) ?_) <|
    .cons (.of_reads (text_decides settings.detail) ?_) <|
    .cons (.of_reads (text_decides settings.speechModel) ?_) <|
    .cons (.of_reads (text_decides settings.voice) ?_) <|
    .cons (.of_reads (text_decides settings.manner) ?_) <|
    .cons (.of_reads (text_decides settings.audioFormat) ?_) <|
    .cons (.of_reads (word64_decides settings.timeoutSeconds) ?_) .nil
  all_goals
    intro look tree
    simp [overlay, given]

theorem decides_excerpt (settings : ServiceSettings) (tree : Tree)
    (excerpt : Excerpt settings.document tree) :
    Decides form.read tree (some (settings.overlay (tree.member? ·))) := by
  refine excerpt.decides settings.restores rfl fun look look' same => ?_
  simp only [fields, List.forall_mem_cons] at same
  simp [overlay, same]

end ServiceSettings

namespace PipelineSettings

def overlay (settings : PipelineSettings) (look : String → Option Tree) : PipelineSettings :=
  let standard : PipelineSettings := {}
  let kept (name : String) : Bool := (look name).isSome
  { concurrency := if kept "concurrency" then settings.concurrency else standard.concurrency
    leaseSeconds := if kept "lease_budget_secs" then settings.leaseSeconds else standard.leaseSeconds }

theorem restores (settings : PipelineSettings) :
    List.Forall₂ (Restores settings.overlay) fields
      [("concurrency", .string settings.concurrency.name),
       ("lease_budget_secs", .natural settings.leaseSeconds.toNat)] := by
  refine .cons (.of_reads (Concurrency.decides_excerpt settings.concurrency) ?_) <|
    .cons (.of_reads (word64_decides settings.leaseSeconds) ?_) .nil
  all_goals
    intro look tree
    simp [overlay, given]

theorem decides_excerpt (settings : PipelineSettings) (tree : Tree)
    (excerpt : Excerpt settings.document tree) :
    Decides form.read tree (some (settings.overlay (tree.member? ·))) := by
  refine excerpt.decides settings.restores rfl fun look look' same => ?_
  simp only [fields, List.forall_mem_cons] at same
  simp [overlay, same]

end PipelineSettings

/-! ### All settings -/

namespace Settings

/-- The settings as far as they are looked up, section by section, and defaults for the others. -/
def overlay (settings : Settings) (look : String → Option Tree) : Settings :=
  { radio := settings.radio.overlay fun name => (look "radio").bind (·.member? name)
    services := settings.services.overlay fun name => (look "services").bind (·.member? name)
    pipeline := settings.pipeline.overlay fun name => (look "pipeline").bind (·.member? name) }

theorem restores (settings : Settings) :
    List.Forall₂ (Restores settings.overlay) fields
      [("radio", settings.radio.document),
       ("services", settings.services.document),
       ("pipeline", settings.pipeline.document)] := by
  refine .cons (.of_reads settings.radio.decides_excerpt ?_) <|
    .cons (.of_reads settings.services.decides_excerpt ?_) <|
    .cons (.of_reads settings.pipeline.decides_excerpt ?_) .nil
  all_goals
    intro look tree
    simp [overlay, given]

/-- Settings of which a text holds a part. Whatever entries it keeps, in whatever order, and whatever
members of other names stand between them at any level, with values of any kind: it is read as those
settings where they are kept, and as the defaults everywhere else. -/
theorem parse_excerpt {settings : Settings} {tree : Tree} {text : Bytes}
    (excerpt : Excerpt settings.document tree) (written : tree.Written text) :
    Settings.parse text = .ok (settings.overlay (tree.member? ·)) := by
  have decides : Decides form.read tree (some (settings.overlay (tree.member? ·))) := by
    refine excerpt.decides settings.restores rfl fun look look' same => ?_
    simp only [fields, List.forall_mem_cons] at same
    simp [overlay, same]
  exact decides.parse written

/-- Two entries of different sections, between members that are no settings. -/
theorem parse_excerpt_scattered :
    let settings : Settings :=
      { radio := { psm := 9, mtu := 64 }, services := { voice := "ash", base := "here" } }
    let text := Bytes.ofText
      " \x7b \"services\":\x7b\"seen\":[-0.5E+2 ,\"\\ud800\",\x7b\"mtu\":null\x7d],
        \"tts_voice\":\"\\u0061sh\"\x7d,\"mtu\":7,\"radio\" : \x7b\"mtu\":64\x7d\x7d\n"
    ∃ tree : Tree, Excerpt settings.document tree ∧ tree.Written text ∧
      Settings.parse text = .ok { radio := { mtu := 64 }, services := { voice := "ash" } } := by
  intro settings text
  let half : Numeral :=
    { sign := [minus], whole := [48], fraction := [46, 53], power := [69, 43, 50]
      signed := .inr rfl, counted := .inl rfl
      divided := .inr ⟨[53], rfl, by decide, by simp [isDigit]⟩
      scaled := .inr ⟨69, [43], [50], rfl, rfl, .inr (.inl rfl), by decide, by simp [isDigit]⟩ }
  let count (digits : Bytes) (counts : Digits digits ∧ digits.head? ≠ some 48) : Numeral :=
    { whole := digits, signed := .inl rfl, counted := .inr counts, divided := .inl rfl
      scaled := .inl rfl }
  let seven := count [55] ⟨⟨by decide, by simp [isDigit]⟩, by decide⟩
  let size := count [54, 52] ⟨⟨by decide, by simp [isDigit]⟩, by decide⟩
  let lone : Spelling := [.long ⟨⟨13, false⟩, ⟨8, false⟩, ⟨0, false⟩, ⟨0, false⟩⟩]
  let voice : Spelling := .long ⟨⟨0, false⟩, ⟨0, false⟩, ⟨6, false⟩, ⟨1, false⟩⟩ :: Spelling.plainly "sh"
  let services : Tree := .object
    [(.plainly "seen", .list [.number half, .string lone, .object [(.plainly "mtu", .null)]]),
     (.plainly "tts_voice", .string voice)]
  let radio : Tree := .object [(.plainly "mtu", .number size)]
  let tree : Tree := .object
    [(.plainly "services", services), (.plainly "mtu", .number seven), (.plainly "radio", radio)]
  have written : tree.Written text := by decide +kernel
  have inServices : Excerpt settings.services.document services := by
    refine .object (by decide +kernel) (by decide +kernel) fun member among entry known spelt => ?_
    fin_cases among <;> fin_cases known <;> first
      | exact absurd spelt (by decide +kernel)
      | exact .string (by decide +kernel : voice.text? = some "ash")
  have inRadio : Excerpt settings.radio.document radio := by
    refine .object (by decide +kernel) (by decide +kernel) fun member among entry known spelt => ?_
    fin_cases among
    fin_cases known <;> first
      | exact absurd spelt (by decide +kernel)
      | exact .natural (by decide +kernel : size.token = Bytes.ofText (Nat.repr 64))
  have excerpt : Excerpt settings.document tree := by
    refine .object (by decide +kernel) (by decide +kernel) fun member among entry known spelt => ?_
    fin_cases among <;> fin_cases known <;> first
      | exact absurd spelt (by decide +kernel)
      | exact inServices
      | exact inRadio
  exact ⟨tree, excerpt, written, parse_excerpt excerpt written⟩

end Settings

end Sightline
