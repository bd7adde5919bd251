import Rhythm.Fallible
import Rhythm.Runs.Workflow
import Rhythm.Transition

/-!
# Rhythm.Runs.RequestEvidence

Does the summary of a request hide the secrets of its run?  The masking knows a secret by
the name of a variable that holds it, and replaces the secret as it is, after the URL
was percent-encoded.  So a secret under another name shows, and so does one that the
encoding spells in another way.
-/

namespace Rhythm.Runs

open Text Network Fallible

def spellings (secret : String) : List String := [secret, queryEscape secret]

def RequestText.texts (config : RequestText) : List String :=
  [config.method, config.url, config.auth.type, config.bodyType, config.bodyContent] ++
    ((config.params ++ config.headers ++ config.cookies).flatMap fun item =>
      [item.key, item.value]) ++
    config.auth.fields.flatMap fun field => [field.1, field.2]

/-- A spelling of the secret is in the mask or in the configuration as it is written. -/
def Written (config : RequestText) (secret : String) : Prop :=
  ∃ spelling ∈ spellings secret,
    contains mask spelling = true ∨ ∃ text ∈ config.texts, contains text spelling = true

instance (config : RequestText) (secret : String) : Decidable (Written config secret) :=
  inferInstanceAs (Decidable (∃ spelling ∈ spellings secret,
    contains mask spelling = true ∨ ∃ text ∈ config.texts, contains text spelling = true))

/-- The rendered URL, a rendered parameter or a rendered header contains the secret. -/
def Rendered (lib : RequestLibrary) (config : RequestText) (values : Values) (secret : String) :
    Prop :=
  (∃ url, render lib.generate config.url values = .ok url ∧ contains url secret = true) ∨
    ∃ item ∈ config.params ++ config.headers, item.used = true ∧
      ∃ value, render lib.generate item.value values = .ok value ∧ contains value secret = true

/-- The URL and the headers of the summary show no spelling of the secret. -/
def Conceals (summary : RequestSummary) (secret : String) : Prop :=
  ∀ spelling ∈ spellings secret, contains summary.url spelling = false ∧
    ∀ header ∈ summary.headers, contains header.2 spelling = false

/-- **The evidence law.**  The summary of an HTTP step conceals every secret of the run that its
request is rendered with. -/
def KeepsSecrets (lib : RequestLibrary) (e : HTTPExecutor) (s : WorkflowState) (a : StepExecution)
    (s' : WorkflowState) : Prop :=
  match a with
  | .http step outcome =>
    ∀ prepared summary, prepare step outcome s.values = some prepared →
      requestSummary lib e step outcome s.values = some summary →
      ∀ secret ∈ s'.secrets, Rendered lib prepared.request prepared.outputs secret →
        ¬ Written step.request secret → Conceals summary secret
  | _ => True

/-- The parts of a URL as the summary prints them: what is before the query, the fragment, and each
name and value of the query, percent-encoded. -/
def shownParts (auth : AuthConfig) (target : URL) : List String :=
  { target with host := trimSuffix target.host ":" }.base :: target.fragment ::
    (target.query ++
      if auth.type = "apiKey" ∧ auth.field "location" = "query" then [(auth.field "name", mask)]
      else []).flatMap fun parameter =>
        [queryEscape parameter.1,
          queryEscape (if maskedParameter auth parameter.1 then mask else parameter.2)]

/-- The spelling is the value of a variable that is masked by its name; or it has no separator, is
in no part of the URL, and is only in headers that are masked. -/
def Hidden (lib : RequestLibrary) (e : HTTPExecutor) (answer : Answer) (config : RequestText)
    (values : Values) (spelling : String) : Prop :=
  Known values spelling ∨
    Apart spelling mask ∧ Unseparated spelling ∧
      (∀ target, renderTarget lib e answer config values = .ok target →
        ∀ part ∈ shownParts config.auth target, contains part spelling = false) ∧
      ∀ header ∈ config.headers, header.used = true →
        ¬ (header.sensitive = true ∨ sensitiveHeader header.key = true) →
        ∀ value, render lib.generate header.value values = .ok value →
          contains value spelling = true →
          ∃ entry ∈ values, Known values entry.2 ∧ contains value entry.2 = true

/-- Every secret that a step's request is rendered with is hidden, in both spellings. -/
def HidesSecrets (lib : RequestLibrary) (e : HTTPExecutor) (s : WorkflowState) (a : StepExecution)
    (s' : WorkflowState) : Prop :=
  match a with
  | .http step outcome =>
    ∀ prepared, prepare step outcome s.values = some prepared →
      ∀ secret ∈ s'.secrets, Rendered lib prepared.request prepared.outputs secret →
        ¬ Written step.request secret →
        ∀ spelling ∈ spellings secret,
          Hidden lib e outcome.answer prepared.request prepared.outputs spelling
  | _ => True

/-! ## Headers -/

variable {lib : RequestLibrary} {e : HTTPExecutor} {answer : Answer} {config : RequestText}
  {auth : AuthConfig} {values : Values} {spelling : String}

theorem mem_renderItems {items : List KeyValue} {rendered : List (KeyValue × String)}
    {header : KeyValue × String} (h : renderItems lib.generate values items = .ok rendered)
    (hmem : header ∈ rendered) :
    header.1 ∈ items ∧ header.1.used = true ∧
      render lib.generate header.1.value values = .ok header.2 := by
  obtain ⟨item, hitem, hok⟩ := (exists_of_forall₂ (mapM_eq_ok_iff.mp h)).1 header hmem
  obtain ⟨hin, hused⟩ := List.mem_filter.mp hitem
  cases hvalue : render lib.generate item.value values with
  | error key =>
    rw [hvalue] at hok
    cases hok
  | ok value =>
    rw [hvalue] at hok
    cases hok
    exact ⟨hin, hused, hvalue⟩

variable {headers : List (KeyValue × String)}

theorem mem_foldl_write {shown : String × String} {start : Values}
    (h : shown ∈ headers.foldl (fun (shown : Values) header =>
      shown.write header.1.key (safeHeader lib values header.1 header.2)) start) :
    shown ∈ start ∨ ∃ header ∈ headers, shown.2 = safeHeader lib values header.1 header.2 := by
  induction headers generalizing start with
  | nil => exact .inl h
  | cons header headers ih =>
    obtain hwritten | ⟨later, hlater, hshown⟩ := ih h
    · obtain rfl | hstart := Unmarshal.mem_setKey hwritten
      · exact .inr ⟨header, List.mem_cons_self, rfl⟩
      · exact .inl hstart
    · exact .inr ⟨later, List.mem_cons_of_mem header hlater, hshown⟩

theorem mem_safeHeaderSummary {shown : String × String}
    (h : shown ∈ safeHeaderSummary lib values auth headers) :
    shown.2 = mask ∨ ∃ header ∈ headers, shown.2 = safeHeader lib values header.1 header.2 := by
  have hheaders : ∀ entry : String × String, entry ∈ headers.foldl (fun (shown : Values) header =>
      shown.write header.1.key (safeHeader lib values header.1 header.2)) [] →
      ∃ header ∈ headers, entry.2 = safeHeader lib values header.1 header.2 := by
    intro entry hentry
    exact (mem_foldl_write hentry).resolve_left List.not_mem_nil
  unfold safeHeaderSummary at h
  split at h
  · obtain rfl | hshown := Unmarshal.mem_setKey h
    · exact .inl rfl
    · exact .inr (hheaders shown hshown)
  · exact .inr (hheaders shown h)

theorem not_contains_safeHeader {header : KeyValue} {value : String}
    (hmask : contains mask spelling = false)
    (h : ¬ (header.sensitive = true ∨ sensitiveHeader header.key = true) →
      contains value spelling = true →
      ∃ entry ∈ values, Known values entry.2 ∧ contains value entry.2 = true) :
    contains (safeHeader lib values header value) spelling = false := by
  unfold safeHeader
  split
  · exact hmask
  · next hnamed =>
    split
    · exact hmask
    · next hsame =>
      rw [ne_eq, not_not] at hsame
      rw [Bool.eq_false_iff]
      intro hcontains
      obtain ⟨entry, -, ⟨hempty, hapart, hentry⟩, hpart⟩ := h hnamed hcontains
      have hwalked : Known (lib.walk value values) entry.2 := by
        obtain ⟨known, hknown, hkey⟩ := hentry
        exact ⟨hempty, hapart, known, (lib.walk_perm value values).mem_iff.mpr hknown, hkey⟩
      have hgone := @not_contains_maskKnownValue value _ _ hwalked
      rw [hsame, hpart] at hgone
      contradiction

/-! ## URLs -/

theorem mem_safeURL {target : URL} {parameter : String × String}
    (h : parameter ∈ (safeURL target auth).query) :
    ∃ original ∈ target.query, parameter =
      (original.1, if maskedParameter auth original.1 then mask else original.2) := by
  obtain ⟨hkey, hvalue⟩ | ⟨hquery, hkey⟩ := Query.mem_foldl_set h
  · grind
  · grind

theorem applyAuth_ok {url url' : URL} (h : applyAuth lib auth values url = some url') :
    url'.base = url.base ∧ url'.fragment = url.fragment ∧
      ∀ parameter ∈ url'.query, parameter ∈ url.query ∨
        (auth.type = "apiKey" ∧ auth.field "location" = "query") ∧
          parameter.1 = auth.field "name" := by
  have hsame : url = url' → url'.base = url.base ∧ url'.fragment = url.fragment ∧
      ∀ parameter ∈ url'.query, parameter ∈ url.query ∨
        (auth.type = "apiKey" ∧ auth.field "location" = "query") ∧
          parameter.1 = auth.field "name" := by
    rintro rfl
    exact ⟨rfl, rfl, fun _ h => .inl h⟩
  unfold applyAuth at h
  split at h
  · exact hsame (Option.some.inj h)
  · exact hsame (Option.some.inj h)
  · next htype =>
    rw [Option.map_eq_some_iff] at h
    obtain ⟨rendered, -, hurl⟩ := h
    split at hurl
    · next hlocation =>
      subst hurl
      refine ⟨rfl, rfl, fun parameter hparameter => ?_⟩
      rw [Query.set, List.mem_append, List.mem_singleton] at hparameter
      obtain hkept | rfl := hparameter
      · exact .inl (List.mem_of_mem_filter hkept)
      · exact .inr ⟨⟨htype, hlocation⟩, rfl⟩
    · exact hsame hurl
  all_goals
    first
    | contradiction
    | split at h
      · exact hsame (Option.some.inj h)
      · contradiction

theorem newRequest_ok {method method' : String} {target url : URL}
    (h : newRequest method target = some (method', url)) :
    url = { target with host := trimSuffix target.host ":" } := by
  simp only [newRequest, guarded_eq_some_iff, Prod.mk.injEq] at h
  exact h.2.2.symm

/-- **The URL of the summary.**  Its components are the parts that are shown. -/
theorem mem_shownParts {method method' : String} {target url url' : URL} {part : String}
    (hrequest : newRequest method target = some (method', url))
    (hauth : applyAuth lib auth values url = some url')
    (h : part ∈ (safeURL url' auth).components) : part ∈ shownParts auth target := by
  obtain ⟨hbase, hfragment, hquery⟩ := applyAuth_ok hauth
  rw [newRequest_ok hrequest] at hbase hfragment hquery
  have hbase' : (safeURL url' auth).base =
      { target with host := trimSuffix target.host ":" }.base := hbase
  have hfragment' : (safeURL url' auth).fragment = target.fragment := hfragment
  rw [URL.components, hbase', hfragment'] at h
  rw [shownParts]
  obtain rfl | hrest := List.mem_cons.mp h
  · exact List.mem_cons_self
  · obtain rfl | hparameter := List.mem_cons.mp hrest
    · exact List.mem_cons_of_mem _ List.mem_cons_self
    · refine List.mem_cons_of_mem _ (List.mem_cons_of_mem _ ?_)
      obtain ⟨parameter, hin, hpart⟩ := List.mem_flatMap.mp hparameter
      obtain ⟨original, horiginal, rfl⟩ := mem_safeURL hin
      dsimp only at hpart
      obtain htarget | ⟨hapiKey, hname⟩ := hquery original horiginal
      · refine List.mem_flatMap.mpr ⟨original, ?_, hpart⟩
        exact List.mem_append_left _ htarget
      · grind [maskedParameter, mask, List.mem_append_right]

/-! ## Summaries -/

theorem toOption_eq_some_iff {α : Type} {result : Except String α} {value : α} :
    result.toOption = some value ↔ result = .ok value := by
  cases result <;> simp [Except.toOption]

theorem buildRequest_ok {summary : RequestSummary}
    (h : buildRequest lib e answer config values = some summary) :
    ∃ target method url url' headers, renderTarget lib e answer config values = .ok target ∧
      newRequest (toUpper config.method) target = some (method, url) ∧
      renderItems lib.generate values config.headers = .ok headers ∧
      applyAuth lib config.auth values url = some url' ∧
      summary.url = safeRequestURL lib url' config.auth values ∧
      summary.headers = safeHeaderSummary lib values config.auth headers := by
  simp only [buildRequest, bind, Option.bind_eq_some_iff, toOption_eq_some_iff, pure,
    Option.some.injEq] at h
  obtain ⟨target, htarget, -, -, -, -, ⟨method, url⟩, hrequest, headers, hheaders, -, -, url',
    hauth, rfl⟩ := h
  exact ⟨target, method, url, url', headers, htarget, hrequest, hheaders, hauth, rfl, rfl⟩

/-- **A hidden spelling does not show.** -/
theorem conceals_of_hidden {summary : RequestSummary}
    (h : buildRequest lib e answer config values = some summary)
    (hmask : contains mask spelling = false)
    (hhidden : Hidden lib e answer config values spelling) :
    contains summary.url spelling = false ∧
      ∀ header ∈ summary.headers, contains header.2 spelling = false := by
  obtain ⟨target, method, url, url', headers, htarget, hrequest, hheaders, hauth, hurl, hsummary⟩ :=
    buildRequest_ok h
  have hempty : spelling ≠ "" := by
    rintro rfl
    revert hmask
    decide
  constructor
  · rw [hurl, safeRequestURL]
    obtain hknown | ⟨hapart, hseparated, hparts, -⟩ := hhidden
    · obtain ⟨-, hapart, entry, hentry, hkey⟩ := hknown
      exact not_contains_maskKnownValue
        ⟨hempty, hapart, entry, (lib.walk_perm _ values).mem_iff.mpr hentry, hkey⟩
    · rw [Bool.eq_false_iff]
      intro hcontains
      have hplain := contains_of_contains_maskKnownValue hapart hcontains
      obtain ⟨part, hpart, hin⟩ := URL.contains_string hempty hseparated hplain
      have habsent := hparts target htarget part (mem_shownParts hrequest hauth hpart)
      exact Bool.false_ne_true (habsent.symm.trans hin)
  · intro shown hshown
    rw [hsummary] at hshown
    obtain hmasked | ⟨header, hheader, hsafe⟩ := mem_safeHeaderSummary hshown
    · rw [hmasked]
      exact hmask
    · obtain ⟨hitem, hused, hrendered⟩ := mem_renderItems hheaders hheader
      rw [hsafe]
      refine not_contains_safeHeader hmask fun hnamed hcontains => ?_
      obtain hknown | ⟨-, -, -, honly⟩ := hhidden
      · obtain ⟨entry, hentry, hkey, hvalue⟩ := hknown.2.2
        exact ⟨entry, hentry, hvalue ▸ hknown, hvalue ▸ hcontains⟩
      · exact honly header.1 hitem hused hnamed header.2 hrendered hcontains

/-! ## Along a run -/

variable {s s' : WorkflowState} {a : StepExecution}

theorem keepsSecrets_of_hidesSecrets (h : HidesSecrets lib e s a s') :
    KeepsSecrets lib e s a s' := by
  cases a with
  | action stepID actions outputs | metric stepID value succeeded => trivial
  | http step outcome =>
    intro prepared summary hprepared hsummary secret hsecret hrendered hwritten spelling hspelling
    have hhidden := h prepared hprepared secret hsecret hrendered hwritten spelling hspelling
    have hbuilt : buildRequest lib e outcome.answer prepared.request prepared.outputs =
        some summary := by
      rw [requestSummary, hprepared, Option.bind_some] at hsummary
      split at hsummary
      · contradiction
      · exact hsummary
    have hmask : contains mask spelling = false := by
      rw [Bool.eq_false_iff]
      exact fun hcontains => hwritten ⟨spelling, hspelling, .inl hcontains⟩
    exact conceals_of_hidden hbuilt hmask hhidden

def sampleLibrary : RequestLibrary where
  parseURL _ := some
    { scheme := "https"
      user := false
      host := "shop.example"
      hostname := "shop.example"
      path := "/orders"
      forceQuery := false
      query := []
      fragment := "" }
  generate _ _ := none
  encodeBody _ content := some content
  credential _ _ := none
  authorizes _ _ := false
  walk _ values := values
  walk_perm _ _ := List.Perm.refl _

def sampleStep : HTTPStep where
  id := "s1"
  preRequest := []
  request :=
    { method := "GET"
      url := "https://shop.example/orders"
      params := [⟨true, "q", "\x7b\x7bsecrets.key\x7d\x7d", false⟩]
      headers := []
      cookies := []
      auth := ⟨"", []⟩
      bodyType := ""
      bodyContent := "" }
  extractors := []

def sampleOutcome (key : String) : HTTPOutcome where
  outputs := some [("secrets.key", key)]
  preRequestScript := .nothing
  answer := none
  response := some ⟨"200", []⟩
  testScript := .nothing
  succeeded := true

def sampleExecutor : HTTPExecutor := ⟨true, ⟨[], []⟩⟩

theorem known_sampleKey : ∀ spelling ∈ spellings "k1", Known [("secrets.key", "k1")] spelling := by
  have hencoded : queryEscape "k1" = "k1" := by decide +kernel
  have hknown : Known [("secrets.key", "k1")] "k1" :=
    ⟨by decide, by decide +kernel, _, List.mem_singleton.mpr rfl, by decide +kernel, rfl⟩
  intro spelling hspelling
  rw [spellings, hencoded] at hspelling
  obtain rfl : spelling = "k1" := by simpa using hspelling
  exact hknown

end Rhythm.Runs
