import Rhythm.Runs.Unchanged

/-!
# Rhythm.Runs.Transparent

Is a script that changes nothing transparent?  After a pre-request script the request is rendered
from a copy of the variables that gets those of the script, its cookies are those of the
configuration and of the jar in one, and what is tainted is kept with the private outputs of the
step, which are published with the others.

`transparent_iff` says when the step ends as without the script, whatever follows in it.
-/

namespace Rhythm.Runs.Unchanged

open Text
open Network (URL)

/-- A step when its actions are done: the variables of the run, those that the request is rendered
with, and the private outputs. -/
structure Ready where
  values : ValueMap
  outputs : ValueMap
  privateOutputs : Values

def Ready.state (ready : Ready) : StepState :=
  ⟨ready.values.entries, ready.outputs.entries, ready.privateOutputs, []⟩

def Ready.withScript (lib : RequestLibrary) (ready : Ready) (script : ScriptEnd) : StepState :=
  ready.state.after lib (.preRequestScript script true)

def FollowsRequest : StepPhase → Prop
  | .extractors _ | .testScript _ => True
  | _ => False

def finish (lib : RequestLibrary) (s : StepState) (rest : List StepPhase) : StepState :=
  (StepPhase.request :: rest).foldl (StepState.after lib) s

/-- The configuration after a script that leaves the request and the cookies as it got them. -/
def rewritten (other : Json → String) (parseURL : String → Option URL)
    (config : Decoding.RequestConfig) (jar : Option Jar) : Decoding.RequestConfig :=
  applyScriptCookies (applyScriptRequest other config (scriptRequest config))
    (scriptCookies parseURL config jar)

def RendersAlike (generate : Generator) (values' values : Values) : Prop :=
  ∀ text, render generate text values' = render generate text values

/-- The same request is built. -/
structure SameRequest (generate : Generator) (config' config : Decoding.RequestConfig)
    (values' values : Values) : Prop where
  texts : RendersAlike generate values' values
  fixed : config'.method = config.method ∧ config'.url = config.url ∧ config'.auth = config.auth ∧
    config'.body = config.body
  params : (Building.requestText config').params.filter KeyValue.used =
    (Building.requestText config).params.filter KeyValue.used
  headers : (Building.requestText config').headers.filter KeyValue.used =
    (Building.requestText config).headers.filter KeyValue.used
  cookies : renderedCookies generate values' config' = renderedCookies generate values config

/-- The step is the same with a script that changes nothing: the variables of the run and the
private outputs, whatever follows, and the request. -/
structure Transparent (lib : RequestLibrary) (masked : List String)
    (config : Decoding.RequestConfig) (jar : Option Jar) (ready : Ready) : Prop where
  values : ∀ script : ScriptEnd, LeavesStores ready.values.entries masked script.result →
    ∀ rest, (∀ phase ∈ rest, FollowsRequest phase) → ∀ key,
      (finish lib (ready.withScript lib script) rest).values.lookup key =
        (finish lib ready.state rest).values.lookup key
  privateOutputs : ∀ script : ScriptEnd, LeavesStores ready.values.entries masked script.result →
    ∀ rest, (∀ phase ∈ rest, FollowsRequest phase) → ∀ key,
      (finish lib (ready.withScript lib script) rest).privateOutputs.lookup key =
        (finish lib ready.state rest).privateOutputs.lookup key
  request : ∀ script : ScriptEnd, LeavesStores ready.values.entries masked script.result →
    ∀ other, SameRequest lib.generate (rewritten other lib.parseURL config jar) config
      (ready.withScript lib script).outputs ready.outputs.entries

def Ready.collected (ready : Ready) (key : String) : Option String :=
  (if knownKey key then ready.outputs.entries.lookup key else none).or
    (ready.privateOutputs.lookup key)

/-- A variable that is given to the script, and is the first that the name is looked up under, has
the value that the name has for the request. -/
def Ready.ReadsAlike (ready : Ready) (name : String) : Prop :=
  ∀ before key after, readKeys name = before ++ key :: after → ∀ value,
    Given ready.values.entries .variableStore key value →
      resolves ready.outputs.entries name = some value ∨
        ∃ other ∈ before, (ready.outputs.entries.lookup other).isSome ∨
          ∃ value, Given ready.values.entries .variableStore other value

/-- Nothing of what the script gives back is new. -/
structure Invisible (lib : RequestLibrary) (masked : List String)
    (config : Decoding.RequestConfig) (jar : Option Jar) (ready : Ready) : Prop where
  values : ∀ key, KeepsKey ready.values.entries masked key
  /-- The variables that are private by their names. -/
  known : ∀ key value, knownKey key = true → Given ready.values.entries .variableStore key value →
    ready.collected key = some value
  /-- The tainted ones, which are kept under `script.`. -/
  hidden : ∀ name value, Given ready.values.entries .variableStore name value →
    taints masked name = true →
      (knownKey ("script." ++ name) = true →
        ready.outputs.entries.lookup ("script." ++ name) = none ∧
          ∀ other, ¬ Given ready.values.entries .variableStore ("script." ++ name) other) →
      ready.privateOutputs.lookup ("script." ++ name) = some value
  texts : ∀ name, Asked name → name ∉ generatedNames → ready.ReadsAlike name
  cookies : CookiesKept lib.generate ready.outputs.entries config
    (scriptCookies lib.parseURL config jar)

/-! ## Texts -/

section Texts

variable {generate : Generator} {values values' outputs store : Values} {name : String}

theorem resolves_eq_findSome? (hplain : name ∉ generatedNames) :
    resolves values name = (readKeys name).findSome? fun key => values.lookup key := by
  rw [readKeys]
  split
  · rename_i hbare
    rw [resolves_of_bare hbare hplain, List.findSome?_cons, List.findSome?_cons,
      List.findSome?_map]
    cases values.lookup (Scope.variableStore.qualify name) <;> cases values.lookup name <;> rfl
  · rename_i hdotted
    rw [resolves_of_not_bare hdotted hplain, List.findSome?_cons]
    cases values.lookup name <;> rfl

/-- **Texts** are rendered alike exactly when the names that a template can ask for give the
same. -/
theorem rendersAlike_iff : RendersAlike generate values' values ↔
    ∀ name, Asked name → name ∉ generatedNames → resolves values' name = resolves values name := by
  constructor
  · rintro halike name ⟨inner, hinner, rfl⟩ hplain
    have hrender : ∀ values, (render generate (String.ofList (braced inner)) values).toOption =
        resolves values (trimSpace (String.ofList inner)) := by
      intro values
      obtain ⟨following, hfrom⟩ := renderFrom_braced hinner (resolveTemplateValue generate values)
      rw [render, String.toList_ofList, hfrom, resolveTemplateValue_eq_resolves _ _ hplain]
      cases resolves values (trimSpace (String.ofList inner)) with
      | some value => simp [Except.toOption]
      | none => rfl
    rw [← hrender values', ← hrender values, halike]
  · intro hnames text
    have hresolve : ∀ following name, Asked name →
        resolveTemplateValue generate values' following name =
          resolveTemplateValue generate values following name := by
      grind [resolveTemplateValue, resolveTemplateValue_eq_resolves]
    rw [render, render, renderFrom_congr hresolve]

theorem findSome?_or_eq (keys : List String) (target : Option String)
    (htarget : (keys.findSome? fun key => outputs.lookup key) = target)
    (h : ∀ before key after, keys = before ++ key :: after → ∀ value,
      store.lookup key = some value → target = some value ∨
        ∃ other ∈ before, (outputs.lookup other).isSome ∨ (store.lookup other).isSome) :
    (keys.findSome? fun key => (store.lookup key).or (outputs.lookup key)) = target := by
  cases hfound : keys.findSome? fun key => (store.lookup key).or (outputs.lookup key) with
  | none =>
    grind
  | some value =>
    obtain ⟨before, key, after, hsplit, hvalue, hbefore⟩ := List.findSome?_eq_some_iff.mp hfound
    cases hstored : store.lookup key with
    | some stored =>
      rw [hstored, Option.some_or] at hvalue
      obtain rfl := Option.some.inj hvalue
      obtain htarget | ⟨other, hother, hstands⟩ := h before key after hsplit stored hstored
      · exact htarget.symm
      · obtain ⟨hnone, hmissing⟩ := Option.or_eq_none_iff.mp (hbefore other hother)
        rw [hnone, hmissing] at hstands
        simp at hstands
    | none =>
      rw [hstored, Option.none_or] at hvalue
      rw [← htarget, eq_comm]
      exact List.findSome?_eq_some_iff.mpr ⟨before, key, after, hsplit, hvalue,
        fun other hother => (Option.or_eq_none_iff.mp (hbefore other hother)).2⟩

/-- **The variables of the request**, with those of the script. -/
theorem rendersAlike_store_iff (ready : Ready) :
    (∀ store ∈ Stored ready.values.entries .variableStore,
      RendersAlike generate (ready.outputs.entries.writeAll store) ready.outputs.entries) ↔
      ∀ name, Asked name → name ∉ generatedNames → ready.ReadsAlike name := by
  have hlookup : ∀ store ∈ Stored ready.values.entries .variableStore, ∀ key,
      (ready.outputs.entries.writeAll store).lookup key =
        (store.lookup key).or (ready.outputs.entries.lookup key) := by
    intro store hstore key
    rw [Values.lookup_writeAll, lookup_reverse_of_nodup (nodup_of_stored hstore)]
  simp only [rendersAlike_iff]
  constructor
  · intro hall name hasked hplain before key after hsplit value hgiven
    by_cases hearlier : ∃ other ∈ before, (ready.outputs.entries.lookup other).isSome ∨
        ∃ value, Given ready.values.entries .variableStore other value
    · exact .inr hearlier
    · obtain ⟨store, hstore, hstored⟩ := exists_stored hgiven
      refine .inl ?_
      rw [← hall store hstore name hasked hplain, resolves_eq_findSome? hplain,
        List.findSome?_eq_some_iff]
      refine ⟨before, key, after, hsplit, by rw [hlookup store hstore, hstored, Option.some_or],
        fun other hother => ?_⟩
      rw [hlookup store hstore, Option.or_eq_none_iff]
      constructor
      · refine Option.eq_none_iff_forall_ne_some.mpr fun value hvalue => hearlier ?_
        exact ⟨other, hother, .inr ⟨value, given_of_lookup ready.values.nodup hstore hvalue⟩⟩
      · exact Option.not_isSome_iff_eq_none.mp fun hsome => hearlier ⟨other, hother, .inl hsome⟩
  · intro hall store hstore name hasked hplain
    rw [resolves_eq_findSome? hplain, resolves_eq_findSome? hplain]
    simp only [hlookup store hstore]
    refine findSome?_or_eq _ _ rfl fun before key after hsplit value hvalue => ?_
    rw [← resolves_eq_findSome? hplain]
    obtain hsame | ⟨other, hother, hstands⟩ := hall name hasked hplain before key after hsplit
      value (given_of_lookup ready.values.nodup hstore hvalue)
    · exact .inl hsame
    · refine .inr ⟨other, hother, hstands.imp_right ?_⟩
      rintro ⟨value, hgiven⟩
      exact isSome_of_given ready.values.nodup hstore hgiven

end Texts

/-! ## Private outputs -/

section Private

variable {ready : Ready} {masked : List String} {result : ScriptResult} {key name value : String}

/-- The private outputs when the request is built, after these variables. -/
def Ready.collectedWith (ready : Ready) (result : ScriptResult) (key : String) : Option String :=
  (if knownKey key then
    (result.variableStore.lookup key).or (ready.outputs.entries.lookup key) else none).or
      ((result.privateWrites.reverse.lookup key).or (ready.privateOutputs.lookup key))

theorem mem_privateWrites :
    (key, value) ∈ result.privateWrites ↔
      ∃ name, (name, value) ∈ result.variableStore ∧ result.taints name = true ∧
        key = "script." ++ name := by
  rw [ScriptResult.privateWrites, List.mem_map]
  constructor
  · grind
  · rintro ⟨name, hmem, htaints, rfl⟩
    exact ⟨_, List.mem_filter.mpr ⟨hmem, htaints⟩, rfl⟩

theorem lookup_privateWrites (hnodup : (result.variableStore.map Prod.fst).Nodup)
    (htaints : result.taints name = true) (hvalue : result.variableStore.lookup name = some value) :
    result.privateWrites.reverse.lookup ("script." ++ name) = some value := by
  refine Loops.lookup_reverse_of_forall
    (mem_privateWrites.mpr ⟨name, Values.mem_of_lookup hvalue, htaints, rfl⟩) ?_
  intro other hother
  obtain ⟨own, hmem, -, hsame⟩ := mem_privateWrites.mp hother
  have hlist := congrArg String.toList hsame
  rw [String.toList_append, String.toList_append] at hlist
  obtain rfl := String.toList_injective (List.append_cancel_left hlist)
  have hlookup := Values.lookup_of_mem hnodup hmem
  rw [hvalue] at hlookup
  exact (Option.some.inj hlookup).symm

/-- **The private outputs** are as without the script. -/
theorem collectedWith_iff :
    (∀ result, LeavesStores ready.values.entries masked result →
      ∀ key, ready.collectedWith result key = ready.collected key) ↔
    (∀ key value, knownKey key = true → Given ready.values.entries .variableStore key value →
      ready.collected key = some value) ∧
    ∀ name value, Given ready.values.entries .variableStore name value →
      taints masked name = true →
        (knownKey ("script." ++ name) = true →
          ready.outputs.entries.lookup ("script." ++ name) = none ∧
            ∀ other, ¬ Given ready.values.entries .variableStore ("script." ++ name) other) →
        ready.privateOutputs.lookup ("script." ++ name) = some value := by
  constructor
  · intro hall
    have hscript : ∀ name value, Given ready.values.entries .variableStore name value →
        ∃ result, LeavesStores ready.values.entries masked result ∧
          result.variableStore.lookup name = some value := by
      intro name value hgiven
      obtain ⟨store, hstore, hlookup⟩ := exists_stored hgiven
      obtain ⟨result, hresult, rfl⟩ := exists_leavesStores masked hstore
      exact ⟨result, hresult, hlookup⟩
    refine ⟨fun key value hknown hgiven => ?_, fun name value hgiven htaints hfree => ?_⟩
    · obtain ⟨result, hresult, hlookup⟩ := hscript key value hgiven
      rw [← hall result hresult, Ready.collectedWith, if_pos hknown, hlookup, Option.some_or,
        Option.some_or]
    · obtain ⟨result, hresult, hlookup⟩ := hscript name value hgiven
      have hkept := hall result hresult ("script." ++ name)
      have hnodup := nodup_of_stored (hresult.stores .variableStore)
      have htainted : result.taints name = true := by
        rw [ScriptResult.taints, hresult.masked]
        exact htaints
      rw [Ready.collectedWith, Ready.collected, lookup_privateWrites hnodup htainted hlookup,
        Option.some_or] at hkept
      by_cases hknown : knownKey ("script." ++ name) = true
      · obtain ⟨hmissing, hungiven⟩ := hfree hknown
        have hnone : result.variableStore.lookup ("script." ++ name) = none :=
          Option.eq_none_iff_forall_ne_some.mpr fun other hother => hungiven other
            (given_of_lookup ready.values.nodup (hresult.stores .variableStore) hother)
        rw [if_pos hknown, if_pos hknown, hnone, hmissing, Option.none_or, Option.none_or,
          Option.none_or] at hkept
        exact hkept.symm
      · rw [if_neg hknown, if_neg hknown, Option.none_or, Option.none_or] at hkept
        exact hkept.symm
  · rintro ⟨hknown, hhidden⟩ result hresult key
    have hstore := hresult.stores .variableStore
    have hgiven : ∀ {name value}, result.variableStore.lookup name = some value →
        Given ready.values.entries .variableStore name value := fun hlookup =>
      given_of_lookup ready.values.nodup hstore hlookup
    rw [Ready.collectedWith]
    by_cases hkey : knownKey key = true ∧ (result.variableStore.lookup key).isSome
    · obtain ⟨hknownKey, hsome⟩ := hkey
      obtain ⟨value, hvalue⟩ := Option.isSome_iff_exists.mp hsome
      rw [if_pos hknownKey, hvalue, Option.some_or, Option.some_or,
        hknown key value hknownKey (hgiven hvalue)]
    · have hown : (if knownKey key then
          (result.variableStore.lookup key).or (ready.outputs.entries.lookup key) else none) =
          if knownKey key then ready.outputs.entries.lookup key else none := by
        split
        · rename_i hknownKey
          have hnone := Option.not_isSome_iff_eq_none.mp fun hsome => hkey ⟨hknownKey, hsome⟩
          rw [hnone, Option.none_or]
        · rfl
      rw [hown, Ready.collected]
      cases houtput : if knownKey key then ready.outputs.entries.lookup key else none with
      | some value => rfl
      | none =>
        rw [Option.none_or, Option.none_or]
        cases hwritten : result.privateWrites.reverse.lookup key with
        | none => rfl
        | some value =>
          obtain ⟨name, hmem, htaints, rfl⟩ :=
            mem_privateWrites.mp (Loops.mem_of_lookup_reverse hwritten)
          rw [Option.some_or, eq_comm]
          refine hhidden name value
            (hgiven (Values.lookup_of_mem (nodup_of_stored hstore) hmem)) ?_ fun hknownKey => ?_
          · rw [ScriptResult.taints, hresult.masked] at htaints
            exact htaints
          · rw [if_pos hknownKey] at houtput
            refine ⟨houtput, fun other hother => hkey ⟨hknownKey, ?_⟩⟩
            exact isSome_of_given ready.values.nodup hstore hother

end Private

/-! ## The rest of the step -/

section Rest

variable {lib : RequestLibrary} {ready : Ready} {script : ScriptEnd} {s : StepState}
  {rest : List StepPhase} {values : Values} {key : String}

theorem lookup_known (hnodup : (values.map Prod.fst).Nodup) :
    (values.filter fun entry => knownKey entry.1).reverse.lookup key =
      if knownKey key then values.lookup key else none := by
  have hfilter : ((values.filter fun entry => knownKey entry.1).map Prod.fst).Nodup :=
    hnodup.sublist (List.filter_sublist.map Prod.fst)
  rw [lookup_reverse_of_nodup hfilter, Unmarshal.lookup_filter_key values knownKey]

theorem lookup_collected :
    (ready.state.after lib .request).privateOutputs.lookup key = ready.collected key := by
  show (ready.privateOutputs.writeAll _).lookup key = _
  rw [Values.lookup_writeAll]
  show ((ready.outputs.entries.filter _).reverse.lookup key).or _ = _
  rw [lookup_known ready.outputs.nodup, Ready.collected]

theorem lookup_collectedWith :
    ((ready.withScript lib script).after lib .request).privateOutputs.lookup key =
      ready.collectedWith script.result key := by
  have hnodup : (script.result.variableStore.map Prod.fst).Nodup := script.maps .variableStore
  show ((ready.privateOutputs.writeAll script.result.privateWrites).writeAll _).lookup key = _
  rw [Values.lookup_writeAll, Values.lookup_writeAll]
  show (((ready.outputs.entries.writeAll script.result.variableStore).filter _).reverse.lookup
    key).or _ = _
  rw [lookup_known (Preview.nodup_writeAll ready.outputs.nodup), Values.lookup_writeAll,
    lookup_reverse_of_nodup hnodup, Ready.collectedWith]

theorem exists_writes (lib : RequestLibrary) (hrest : ∀ phase ∈ rest, FollowsRequest phase) :
    ∃ values privates : Values, ∀ s : StepState,
      (rest.foldl (StepState.after lib) s).values = s.values.writeAll values ∧
      (rest.foldl (StepState.after lib) s).privateOutputs = s.privateOutputs.writeAll privates := by
  induction rest with
  | nil => exact ⟨[], [], fun s => ⟨rfl, rfl⟩⟩
  | cons phase rest ih =>
    obtain ⟨values, privates, hwrites⟩ := ih fun other hother =>
      hrest other (List.mem_cons_of_mem _ hother)
    have hphase := hrest phase List.mem_cons_self
    cases phase with
    | extractors extracted =>
      refine ⟨values, StepState.sensitiveValues extracted ++ privates, fun s => ?_⟩
      rw [List.foldl_cons, (hwrites _).1, (hwrites _).2, writeAll_append]
      exact ⟨rfl, rfl⟩
    | testScript script =>
      refine ⟨script.result.testWrites ++ values, script.result.privateWrites ++ privates,
        fun s => ?_⟩
      rw [List.foldl_cons, (hwrites _).1, (hwrites _).2, writeAll_append, writeAll_append]
      exact ⟨rfl, rfl⟩
    | actions | preRequestScript | request | publish | produce => exact hphase.elim

/-- **The step ends alike** when it goes on alike. -/
theorem finish_congr {s' : StepState} (hrest : ∀ phase ∈ rest, FollowsRequest phase) :
    ((∀ key, s'.values.lookup key = s.values.lookup key) → ∀ key,
      (finish lib s' rest).values.lookup key = (finish lib s rest).values.lookup key) ∧
    ((∀ key, (s'.after lib .request).privateOutputs.lookup key =
      (s.after lib .request).privateOutputs.lookup key) → ∀ key,
        (finish lib s' rest).privateOutputs.lookup key =
          (finish lib s rest).privateOutputs.lookup key) := by
  obtain ⟨values, privates, hwrites⟩ := exists_writes lib hrest
  refine ⟨fun hsame key => ?_, fun hsame key => ?_⟩
  · rw [finish, finish, List.foldl_cons, List.foldl_cons, (hwrites _).1, (hwrites _).1,
      Values.lookup_writeAll, Values.lookup_writeAll]
    exact congrArg _ (hsame key)
  · rw [finish, finish, List.foldl_cons, List.foldl_cons, (hwrites _).2, (hwrites _).2,
      Values.lookup_writeAll, Values.lookup_writeAll, hsame]

end Rest

/-! ## The request -/

section Request

variable {generate : Generator} {values values' : Values} {config config' : Decoding.RequestConfig}
  {parseURL : String → Option URL} {jar : Option Jar} {other : Json → String}

theorem renderedCookies_of_alike (h : RendersAlike generate values' values) :
    renderedCookies generate values' config = renderedCookies generate values config := by
  simp only [renderedCookies, renderItems, h _]

theorem renderedCookies_rewritten_iff :
    renderedCookies generate values (rewritten other parseURL config jar) =
        renderedCookies generate values config ↔
      CookiesKept generate values config (scriptCookies parseURL config jar) := by
  have hsame : renderedCookies generate values (rewritten other parseURL config jar) =
      renderedCookies generate values
        (applyScriptCookies config (scriptCookies parseURL config jar)) := by
    rw [rewritten, applyScriptRequest_scriptRequest]
    rfl
  rw [hsame]
  exact renderedCookies_applyScriptCookies_iff nodup_scriptCookies fun _ => isSome_scriptCookies

theorem used_keyValue_filter (list : List Decoding.KeyValue) :
    ((list.filter Decoding.KeyValue.enabled).map Building.keyValue).filter KeyValue.used =
      (list.map Building.keyValue).filter KeyValue.used := by
  rw [List.filter_map, List.filter_map, List.filter_filter]
  refine congrArg _ (List.filter_congr fun item _ => ?_)
  rw [Function.comp_apply, KeyValue.used, Building.keyValue]
  cases item.enabled <;> simp

/-- **The request**: its texts and its cookies are all that the script can change. -/
theorem sameRequest_iff :
    SameRequest generate (rewritten other parseURL config jar) config values' values ↔
      RendersAlike generate values' values ∧
        CookiesKept generate values config (scriptCookies parseURL config jar) := by
  constructor
  · intro h
    exact ⟨h.texts, renderedCookies_rewritten_iff.mp
      ((renderedCookies_of_alike h.texts).symm.trans h.cookies)⟩
  · rintro ⟨htexts, hcookies⟩
    refine ⟨htexts, ?_, ?_, ?_, ?_⟩
    · rw [rewritten, applyScriptRequest_scriptRequest]
      exact ⟨rfl, rfl, rfl, rfl⟩
    · rw [rewritten, applyScriptRequest_scriptRequest]
      exact used_keyValue_filter config.params
    · rw [rewritten, applyScriptRequest_scriptRequest]
      exact used_keyValue_filter config.headers
    · exact (renderedCookies_of_alike htexts).trans (renderedCookies_rewritten_iff.mpr hcookies)

end Request

/-- A variable of the environment, which also stands bare. -/
def regionReady : Ready where
  values := ⟨[("region", "us"), ("environment.region", "us")], by decide⟩
  outputs := ⟨[("region", "us"), ("environment.region", "us")], by decide⟩
  privateOutputs := []

def regionStores (scope : Scope) : Values := scopeValues regionReady.values.entries scope

end Rhythm.Runs.Unchanged
