import Rhythm.Scripts.Shown

/-!
# Rhythm.Scripts.Hiding

Which values the result of a script hides.  Every string of a result is one of the texts that the
execution shows, or the start of one (`strings_execute`), so a result shows no value that all of
them keep back (`hides_execute`).
-/

namespace Rhythm.Scripts.Evidence

open Text

/-! ## What is stored -/

/-- Some part of what is shown stores the text, or a text that starts with it. -/
def Shows (secrets : List String) (shown : List Shown) (text : String) : Prop :=
  ∃ one ∈ shown, ∃ stored ∈ one.texts secrets, text.toList <+: stored.toList

section Shows

variable {secrets : List String} {shown shown' : List Shown} {text : String}

theorem Shows.mono (h : Shows secrets shown text) (hsub : ∀ one ∈ shown, one ∈ shown') :
    Shows secrets shown' text := by
  obtain ⟨one, hone, hstored⟩ := h
  exact ⟨one, hsub one hone, hstored⟩

theorem Shows.append_left (h : Shows secrets shown text) : Shows secrets (shown ++ shown') text :=
  h.mono fun _ => List.mem_append_left shown'

theorem Shows.append_right (h : Shows secrets shown' text) : Shows secrets (shown ++ shown') text :=
  h.mono fun _ => List.mem_append_right shown

theorem Shows.of_mem {one : Shown} (hone : one ∈ shown) (htext : text ∈ one.texts secrets) :
    Shows secrets shown text :=
  ⟨one, hone, text, htext, List.prefix_rfl⟩

theorem Shows.of_asIs (h : .asIs text ∈ shown) : Shows secrets shown text :=
  .of_mem h (List.mem_singleton_self text)

theorem Shows.empty {stored : String} (h : .asIs stored ∈ shown) : Shows secrets shown "" :=
  ⟨_, h, stored, List.mem_singleton_self stored, List.nil_prefix⟩

theorem Shows.flatMap {α : Type} {items : List α} {f : α → List String} {g : α → List Shown}
    (h : ∀ item ∈ items, ∀ text ∈ f item, Shows secrets (g item) text)
    (htext : text ∈ items.flatMap f) : Shows secrets (items.flatMap g) text := by
  obtain ⟨item, hitem, htext⟩ := List.mem_flatMap.mp htext
  exact (h item hitem text htext).mono fun one hone => List.mem_flatMap.mpr ⟨item, hitem, hone⟩

theorem shows_asIs {strings : List String} (h : text ∈ strings) :
    Shows secrets (asIs strings) text :=
  .of_asIs (List.mem_map_of_mem h)

theorem maskWhole_mem_texts : maskWhole secrets text ∈ (Shown.together [text]).texts secrets := by
  rw [Shown.texts, maskWhole]
  by_cases hsame : mask secrets text = text
  · rw [if_pos hsame, if_pos (by simpa using hsame)]
    exact List.mem_singleton_self text
  · rw [if_neg hsame, if_neg (by simpa using hsame)]
    exact List.mem_singleton_self masked

theorem keyed_mem_texts {byKey : Bool} : (if byKey then masked else maskWhole secrets text) ∈
    (Shown.together [if byKey then masked else text]).texts secrets := by
  grind [maskWhole_mem_texts, masked, maskWhole_masked]

theorem Shows.hides {value : String} {known : Prop} (h : Shows secrets shown text)
    (hmasked : contains masked value = false) (hknown : known → value ∈ secrets)
    (hkeeps : ∀ one ∈ shown, one.KeepsBack secrets value known) :
    contains text value = false := by
  obtain ⟨one, hone, stored, hstored, hbegins⟩ := h
  have hhidden := (hkeeps one hone).hides hmasked hknown stored hstored
  rw [Bool.eq_false_iff, Ne, contains_iff] at hhidden ⊢
  exact fun hfound => hhidden (hfound.trans hbegins.isInfix)

end Shows

/-! ## Where the strings come from -/

section Strings

variable {secrets : List String} {text : String}

theorem jsonStrings_arr (items : List Json) :
    jsonStrings (.arr items) = items.flatMap jsonStrings := by
  rw [jsonStrings]
  induction items with
  | nil => rfl
  | cons item items ih => rw [jsonStrings.itemStrings, ih, List.flatMap_cons]

theorem jsonStrings_obj (fields : Members) :
    jsonStrings (.obj fields) = fields.flatMap fun field => field.1 :: jsonStrings field.2 := by
  rw [jsonStrings]
  induction fields with
  | nil => rfl
  | cons field fields ih => rw [jsonStrings.memberStrings, ih, List.flatMap_cons, List.cons_append]

theorem jsonShown_arr (items : List Json) : jsonShown (.arr items) = items.flatMap jsonShown := by
  rw [jsonShown]
  induction items with
  | nil => rfl
  | cons item items ih => rw [jsonShown.itemsShown, ih, List.flatMap_cons]

theorem jsonShown_obj (fields : Members) :
    jsonShown (.obj fields) = fields.flatMap fun field => .asIs field.1 :: jsonShown field.2 := by
  rw [jsonShown]
  induction fields with
  | nil => rfl
  | cons field fields ih => rw [jsonShown.membersShown, ih, List.flatMap_cons, List.cons_append]

def StringsShown (secrets : List String) (value : Json) : Prop :=
  ∀ text ∈ jsonStrings (maskedValue secrets value),
    Shows secrets (jsonShown (maskedValue [] value)) text

theorem shows_maskedObject {fields : Members} {maskValues : Bool}
    (h : ∀ field ∈ fields, StringsShown secrets field.2)
    (htext : text ∈ jsonStrings (.obj (maskedObject secrets maskValues fields))) :
    Shows secrets (jsonShown (.obj (maskedObject [] maskValues fields))) text := by
  rw [jsonStrings_obj, maskedObject_eq, List.flatMap_map] at htext
  rw [jsonShown_obj, maskedObject_eq, List.flatMap_map]
  refine Shows.flatMap (fun field hfield text htext => ?_) htext
  obtain rfl | htext := List.mem_cons.mp htext
  · exact .of_asIs List.mem_cons_self
  · refine @Shows.mono secrets (jsonShown _) _ text ?_ fun _ => List.mem_cons_of_mem _
    split at htext
    · rename_i hkey
      rw [if_pos hkey]
      obtain rfl := List.mem_singleton.mp htext
      exact .of_mem (List.mem_singleton_self _) (@keyed_mem_texts secrets "" true)
    · rename_i hkey
      rw [if_neg hkey]
      exact h field hfield text htext

theorem stringsShown (value : Json) : StringsShown secrets value := by
  induction value using Json.induction with
  | leaf value harr hobj =>
    intro text htext
    cases value with
    | null | num _ | bool _ => exact absurd htext List.not_mem_nil
    | str value =>
      obtain rfl := List.mem_singleton.mp htext
      rw [maskedValue, maskWhole_nil]
      exact .of_mem (List.mem_singleton_self _) maskWhole_mem_texts
    | arr items => exact absurd rfl (harr items)
    | obj fields => exact absurd rfl (hobj fields)
  | arr items ih =>
    intro text htext
    rw [maskedValue, maskedItems_eq, jsonStrings_arr, List.flatMap_map] at htext
    rw [maskedValue, maskedItems_eq, jsonShown_arr, List.flatMap_map]
    exact Shows.flatMap ih htext
  | obj fields ih =>
    intro text htext
    exact shows_maskedObject ih htext

theorem shows_object {fields : Members} {maskValues : Bool}
    (htext : text ∈ jsonStrings (.obj (maskedObject secrets maskValues fields))) :
    Shows secrets (jsonShown (.obj (maskedObject [] maskValues fields))) text :=
  shows_maskedObject (fun field _ => stringsShown field.2) htext

theorem shows_pair {key value : String} {byKey : Bool}
    (htext : text ∈ [key, if byKey then masked else maskWhole secrets value]) :
    Shows secrets [.asIs key, .together [if byKey then masked else maskWhole [] value]] text := by
  rw [maskWhole_nil]
  rw [List.mem_pair] at htext
  obtain rfl | rfl := htext
  · exact .of_asIs List.mem_cons_self
  · exact .of_mem (List.mem_cons_of_mem _ (List.mem_singleton_self _)) keyed_mem_texts

theorem shows_maskedMap {values : Values} (htext : text ∈ valueStrings (maskedMap secrets values)) :
    Shows secrets (valuesShown (maskedMap [] values)) text := by
  rw [valueStrings, maskedMap, List.flatMap_map] at htext
  rw [valuesShown, maskedMap, List.flatMap_map]
  dsimp only at htext ⊢
  exact Shows.flatMap (fun entry _ text htext => shows_pair htext) htext

theorem shows_entries {entries : List Entry}
    (htext : text ∈ (entries.map (maskedEntry secrets)).flatMap Entry.strings) :
    Shows secrets ((entries.map (maskedEntry [])).flatMap Entry.shown) text := by
  rw [List.flatMap_map] at htext ⊢
  refine Shows.flatMap (fun entry _ text htext => ?_) htext
  rw [maskedEntry_eq, Entry.strings] at htext
  rw [maskedEntry_eq, Entry.shown]
  exact shows_pair htext

theorem shows_maskedRequest {request : Request}
    (htext : text ∈ (maskedRequest secrets request).strings) :
    Shows secrets (maskedRequest [] request).shown text := by
  simp only [Request.strings, maskedRequest, Option.getD_some, List.mem_append] at htext
  simp only [Request.shown, maskedRequest, Option.getD_some]
  obtain (((hown | hheaders) | hquery) | hbody) | hauth := htext
  · refine Shows.append_left (Shows.append_left (Shows.append_left (Shows.append_left ?_)))
    rw [List.mem_pair] at hown
    obtain rfl | rfl := hown
    · exact .of_asIs List.mem_cons_self
    · exact .of_mem (List.mem_cons_of_mem _ (List.mem_singleton_self _))
        (List.mem_singleton_self _)
  · exact (shows_entries hheaders).append_right.append_left.append_left.append_left
  · exact (shows_entries hquery).append_right.append_left.append_left
  · exact (shows_object hbody).append_right.append_left
  · exact (shows_object hauth).append_right

theorem shows_maskedVisualizer {visualizer : Visualizer}
    (htext : text ∈ (maskedVisualizer secrets visualizer).strings) :
    Shows secrets (maskedVisualizer [] visualizer).shown text := by
  rw [Visualizer.strings, List.mem_cons, List.mem_append] at htext
  rw [Visualizer.shown]
  obtain rfl | hdata | hoptions := htext
  · exact .of_mem List.mem_cons_self (List.mem_singleton_self _)
  · exact (shows_object hdata).append_left.mono fun _ => List.mem_cons_of_mem _
  · exact (shows_object hoptions).append_right.mono fun _ => List.mem_cons_of_mem _

/-! ## Changes -/

def Change.masked (secrets : List String) (change : Change) : Change :=
  if mask secrets change.before = change.before ∧ mask secrets change.after = change.after then
    change
  else { change with before := Evidence.masked, after := Evidence.masked, state := Evidence.masked }

theorem diffKey_eq (scope : String) (before after : Values) (key : String) :
    diffKey secrets scope before after key =
      (diffKey [] scope before after key).map (Change.masked secrets) := by
  grind [diffKey, sensitiveRequestKey, Change.masked, mask, mask_nil]

theorem diffMap_eq (scope : String) (before after : Values) :
    diffMap secrets scope before after =
      (diffMap [] scope before after).map (Change.masked secrets) := by
  rw [diffMap, diffMap, List.map_filterMap]
  exact List.filterMap_congr fun key _ => diffKey_eq scope before after key

theorem shows_change {change : Change} (htext : text ∈ (change.masked secrets).strings) :
    Shows secrets change.shown text := by
  have hasIs {stored : String}
      (h : stored ∈ [change.scope, change.key, change.operation, change.state]) :
      Shows secrets change.shown stored :=
    (shows_asIs h).append_left
  have hboth {stored : String}
      (h : stored ∈ (Shown.together [change.before, change.after]).texts secrets) :
      Shows secrets change.shown stored :=
    .of_mem (List.mem_append_right _ (List.mem_singleton_self _)) h
  rw [Shown.texts] at hboth
  rw [Change.masked] at htext
  split at htext <;> grind [Change.strings]

variable {number : Rat → String}

theorem written_mem_texts (request : Request) :
    marshal number (maskedRequest secrets request) ∈
      (Shown.json (requestPieces number (maskedRequest [] request))).texts secrets := by
  rw [Shown.texts, List.mem_singleton, marshal, requestPieces_maskedRequest]

theorem shows_requestChanges {before after : Option Request}
    (htext : text ∈ (diffRequest number secrets before after).flatMap Change.strings) :
    Shows secrets (requestChangesShown number before after) text := by
  cases before with
  | none => exact absurd htext List.not_mem_nil
  | some before =>
    cases after with
    | none => exact absurd htext List.not_mem_nil
    | some after =>
      rw [diffRequest] at htext
      rw [requestChangesShown]
      split at htext
      · exact absurd htext List.not_mem_nil
      · rename_i hchanged
        rw [if_neg hchanged]
        simp only [List.flatMap_cons, List.flatMap_nil, List.append_nil, Change.strings,
          List.mem_cons, List.not_mem_nil, or_false] at htext
        have hasIs {stored : String}
            (h : stored ∈ ["request", "renderedRequest", "updated", "CAPTURED", masked]) :
            Shows secrets (asIs ["request", "renderedRequest", "updated", "CAPTURED", masked] ++
              [.json (requestPieces number (maskedRequest [] before)),
                .json (requestPieces number (maskedRequest [] after))]) stored :=
          (shows_asIs h).append_left
        obtain hscope | hkey | hoperation | hbefore | hafter | hstate := htext
        · exact hasIs (by simp [hscope])
        · exact hasIs (by simp [hkey])
        · exact hasIs (by simp [hoperation])
        · rw [hbefore]
          exact .of_mem (List.mem_append_right _ List.mem_cons_self) (written_mem_texts before)
        · rw [hafter]
          exact .of_mem (List.mem_append_right _ (List.mem_cons_of_mem _ List.mem_cons_self))
            (written_mem_texts after)
        · split at hstate <;> exact hasIs (by simp [hstate])

/-! ## The start of a text -/

theorem takeBytes_starts (size : Nat) (value : List Char) : takeBytes size value <+: value := by
  induction value generalizing size with
  | nil => rw [takeBytes]
  | cons c cs ih =>
    rw [takeBytes]
    split
    · exact List.cons_prefix_cons.mpr ⟨rfl, ih _⟩
    · exact List.nil_prefix

theorem takeLines_starts (count : Nat) (value : List Char) : takeLines count value <+: value := by
  induction value generalizing count with
  | nil => rw [takeLines]
  | cons c cs ih =>
    cases count with
    | zero =>
      rw [takeLines]
      · exact List.nil_prefix
      · exact List.cons_ne_nil _ _
    | succ count =>
      grind [takeLines]

theorem cut_starts (size : Nat) (value : String) : (cut size value).toList <+: value.toList := by
  rw [cut, String.toList_ofList]
  exact takeBytes_starts size _

theorem safeStack_starts (value : String) : (safeStack value).toList <+: value.toList := by
  rw [safeStack, String.toList_ofList]
  exact takeLines_starts 8 _

/-! ## The strings of an execution -/

variable {calls : List (String × String)}

theorem mem_logs {start : List Log × Nat} {log : Log}
    (h : log ∈ (calls.foldl (hostLog secrets) start).1) :
    log ∈ start.1 ∨ ∃ call ∈ calls, log.level = call.1 ∧
      log.message.toList <+: (mask secrets call.2).toList := by
  induction calls generalizing start with
  | nil => exact .inl h
  | cons call calls ih =>
    rw [List.foldl_cons] at h
    obtain hstart | ⟨other, hother, hlog⟩ := ih h
    · rw [hostLog] at hstart
      split at hstart
      · exact .inl hstart
      · obtain hold | hnew := List.mem_append.mp hstart
        · exact .inl hold
        · rw [List.mem_singleton] at hnew
          subst hnew
          exact .inr ⟨call, List.mem_cons_self, rfl, cut_starts _ _⟩
    · exact .inr ⟨other, List.mem_cons_of_mem call hother, hlog⟩

theorem shows_logs (htext : text ∈ (calls.foldl (hostLog secrets) ([], 0)).1.flatMap Log.strings) :
    Shows secrets (calls.flatMap fun call => [.asIs call.1, .inPlace call.2]) text := by
  obtain ⟨log, hlog, htext⟩ := List.mem_flatMap.mp htext
  obtain hnone | ⟨call, hcall, hlevel, hmessage⟩ := mem_logs hlog
  · exact absurd hnone List.not_mem_nil
  · refine @Shows.mono secrets [.asIs call.1, .inPlace call.2] _ text ?_ fun one hone =>
      List.mem_flatMap.mpr ⟨call, hcall, hone⟩
    rw [Log.strings, List.mem_pair] at htext
    obtain rfl | rfl := htext
    · exact .of_asIs (hlevel ▸ List.mem_cons_self)
    · exact ⟨.inPlace call.2, List.mem_cons_of_mem _ (List.mem_singleton_self _), _,
        List.mem_singleton_self _, hmessage⟩

theorem shows_auxiliaryRequests {requests : List AuxiliaryRequest}
    (htext : text ∈ (requests.map fun request =>
      { request with url := mask secrets request.url }).flatMap AuxiliaryRequest.strings) :
    Shows secrets (requests.flatMap fun request =>
      [.asIs request.source, .asIs request.method, .inPlace request.url, .asIs request.error])
      text := by
  rw [List.flatMap_map] at htext
  refine Shows.flatMap (fun request _ text htext => ?_) htext
  simp only [AuxiliaryRequest.strings, List.mem_cons, List.not_mem_nil, or_false] at htext
  obtain rfl | rfl | rfl | rfl := htext
  · exact .of_asIs (by simp)
  · exact .of_asIs (by simp)
  · exact ⟨.inPlace request.url, by simp, _, List.mem_singleton_self _, List.prefix_rfl⟩
  · exact .of_asIs (by simp)

variable {trace : Trace}

theorem shows_traced (htext : text ∈ (traced secrets trace).traceStrings) :
    Shows secrets trace.shown text := by
  rw [Result.traceStrings, List.mem_append, List.mem_append, List.mem_append] at htext
  rw [Trace.shown]
  obtain ((hproblem | hpackage) | hlog) | hrequest := htext
  · exact (shows_asIs hproblem).append_left.append_left.append_left
  · exact (shows_asIs hpackage).append_right.append_left.append_left
  · exact (shows_logs hlog).append_right.append_left
  · exact (shows_auxiliaryRequests hrequest).append_right

theorem shows_toList {α : Type} {item : Option α} {f : α → α} {strings : α → List String}
    {shown : α → List Shown}
    (h : ∀ item, ∀ text ∈ strings (f item), Shows secrets (shown item) text)
    (htext : text ∈ (item.map f).toList.flatMap strings) :
    Shows secrets (item.toList.flatMap shown) text := by
  cases item with
  | none => exact absurd htext List.not_mem_nil
  | some item => exact @Shows.flatMap secrets text α [item] _ _ (fun item _ => h item) htext

variable {input : Input}

theorem shows_completed {tests : List Test} {state : FinalState}
    (htext : text ∈ (completed number secrets input trace tests state).stateStrings) :
    Shows secrets (state.shown number input) text := by
  rw [Result.stateStrings, List.mem_cons] at htext
  rw [FinalState.shown]
  obtain rfl | htext := htext
  · exact .of_asIs List.mem_cons_self
  · refine Shows.mono ?_ fun _ => List.mem_cons_of_mem _
    simp only [List.mem_append] at htext
    obtain ((((hstate | hvisualizer) | hstores) | hrequest) | hchanges) | hrequests := htext
    · exact (shows_object hstate).append_left.append_left.append_left.append_left.append_left
    · exact (shows_toList (fun _ _ => shows_maskedVisualizer) hvisualizer).append_right.append_left
        |>.append_left.append_left.append_left
    · exact (Shows.flatMap (fun _ _ _ => shows_maskedMap) hstores).append_right.append_left
        |>.append_left.append_left
    · exact (shows_toList (fun _ _ => shows_maskedRequest) hrequest).append_right.append_left
        |>.append_left
    · refine Shows.append_left (Shows.append_right ?_)
      rw [completed, List.flatMap_assoc] at hchanges
      refine Shows.flatMap (fun store _ text htext => ?_) hchanges
      rw [diffMap_eq, List.flatMap_map] at htext
      exact Shows.flatMap (fun _ _ _ => shows_change) htext
    · exact (shows_requestChanges hrequests).append_right

variable {result : Result}

theorem shows_end {status category : String} {message : Shown}
    (hstatus : result.status = status) (hversion : result.runtimeVersion = "rhythm-js-2")
    (hcategory : result.errorCategory = category)
    (hmessage : ∃ stored ∈ message.texts secrets, result.errorMessage.toList <+: stored.toList ∧
      result.safeStack.toList <+: stored.toList)
    (htext : text ∈ result.endStrings) :
    Shows secrets (endShown status category message) text := by
  obtain ⟨stored, hstored, hmessage, hstack⟩ := hmessage
  have hasIs {stored : String} (h : stored ∈ [status, "rhythm-js-2", category]) :
      Shows secrets (endShown status category message) stored :=
    (shows_asIs h).append_left
  have hstarts {start : String} (h : start.toList <+: stored.toList) :
      Shows secrets (endShown status category message) start :=
    ⟨message, List.mem_append_right _ (List.mem_singleton_self _), stored, hstored, h⟩
  rw [Result.endStrings, hstatus, hversion, hcategory] at htext
  simp only [List.mem_cons, List.not_mem_nil, or_false] at htext
  obtain rfl | rfl | rfl | rfl | rfl := htext
  · exact hasIs List.mem_cons_self
  · exact hasIs (List.mem_cons_of_mem _ List.mem_cons_self)
  · exact hasIs (List.mem_cons_of_mem _ (List.mem_cons_of_mem _ List.mem_cons_self))
  · exact hstarts hmessage
  · exact hstarts hstack

variable {status category message : String}

theorem shows_end_asIs
    (hstatus : result.status = status) (hversion : result.runtimeVersion = "rhythm-js-2")
    (hcategory : result.errorCategory = category) (hmessage : result.errorMessage = message)
    (hstack : result.safeStack = "") :
    ∀ text ∈ result.endStrings, Shows secrets (endShown status category (.asIs message)) text := by
  refine fun text => shows_end hstatus hversion hcategory ⟨message, List.mem_singleton_self _, ?_⟩
  rw [hmessage, hstack]
  exact ⟨List.prefix_rfl, List.nil_prefix⟩

variable {rest : List Shown}

theorem shows_strings {status category : String} {message : Shown} (htext : text ∈ result.strings)
    (hend : ∀ text ∈ result.endStrings, Shows secrets (endShown status category message) text)
    (htrace : ∀ text ∈ result.traceStrings, Shows secrets rest text)
    (htests : ∀ text ∈ result.tests.flatMap Test.strings, Shows secrets rest text)
    (hstate : ∀ text ∈ result.stateStrings, text = "" ∨ Shows secrets rest text) :
    Shows secrets (endShown status category message ++ rest) text := by
  rw [Result.strings, List.mem_append, List.mem_append, List.mem_append] at htext
  obtain ((h | h) | h) | h := htext
  · exact (hend text h).append_left
  · exact (htrace text h).append_right
  · exact (htests text h).append_right
  · obtain rfl | h := hstate text h
    · exact .empty List.mem_cons_self
    · exact h.append_right

theorem shows_early (hlogs : result.logs = []) (hrequests : result.auxiliaryRequests = []) :
    ∀ text ∈ result.traceStrings, Shows secrets (asIs (result.problems.flatMap Problem.strings) ++
      asIs (result.packageImports.flatMap PackageImport.strings)) text := by
  intro text htext
  rw [Result.traceStrings, hlogs, hrequests, List.flatMap_nil, List.flatMap_nil, List.append_nil,
    List.append_nil, List.mem_append] at htext
  obtain hproblem | hpackage := htext
  · exact (shows_asIs hproblem).append_left
  · exact (shows_asIs hpackage).append_right

theorem not_shown {strings : List String} (h : strings = []) :
    ∀ text ∈ strings, Shows secrets rest text :=
  fun _ htext => absurd (h ▸ htext) List.not_mem_nil

theorem empty_shown {strings : List String} (h : strings = [""]) :
    ∀ text ∈ strings, text = "" ∨ Shows secrets rest text :=
  fun _ htext => .inl (List.mem_singleton.mp (h ▸ htext))

theorem shows_failed {category message : String}
    (htext : text ∈ (failed {} category message).strings) :
    Shows secrets (endShown "FAILED" category (.asIs message)) text := by
  rw [← List.append_nil (endShown _ _ _)]
  exact shows_strings htext (shows_end_asIs rfl rfl rfl rfl rfl) (not_shown rfl) (not_shown rfl)
    (empty_shown rfl)

theorem shows_finished {tests : List Test} {state : FinalState} (htext : text ∈ result.strings)
    (hend : ∀ text ∈ result.endStrings,
      Shows secrets (endShown status category (.asIs message)) text)
    (htrace : result.traceStrings = (traced secrets trace).traceStrings)
    (htests : result.tests = tests)
    (hstate : result.stateStrings =
      (completed number secrets input trace tests state).stateStrings) :
    Shows secrets (endShown status category (.asIs message) ++
      (trace.shown ++ asIs (tests.flatMap Test.strings) ++ state.shown number input)) text := by
  refine shows_strings htext hend ?_ ?_ ?_
  · rw [htrace]
    exact fun _ h => (shows_traced h).append_left.append_left
  · rw [htests]
    exact fun _ h => (shows_asIs h).append_right.append_left
  · rw [hstate]
    exact fun _ h => .inr (shows_completed h).append_right

/-- **Where the strings of a result come from.** -/
theorem strings_execute (number : Rat → String) (input : Input) (behaviour : Behaviour)
    (htext : text ∈ (execute number secrets input behaviour).strings) :
    Shows secrets (behaviour.shown number input) text := by
  cases behaviour with
  | unsupportedVersion => exact shows_failed htext
  | invalid first rest | inputTooLarge problems =>
    refine shows_strings htext (shows_end_asIs rfl rfl rfl rfl rfl) ?_ (not_shown rfl)
      (empty_shown rfl)
    exact fun text h => (shows_early rfl rfl text h).mono (by simp [execute, failed, asIs])
  | packageError problems packageImports message =>
    exact shows_strings htext (shows_end_asIs rfl rfl rfl rfl rfl) (shows_early rfl rfl)
      (not_shown rfl) (empty_shown rfl)
  | pending trace =>
    exact shows_strings htext (shows_end_asIs rfl rfl rfl rfl rfl) (fun _ => shows_traced)
      (not_shown rfl) (empty_shown rfl)
  | runtimeError trace timedOut message =>
    cases timedOut with
    | true =>
      exact shows_strings htext
        (fun text => shows_end rfl rfl rfl
          ⟨_, List.mem_singleton_self _, List.prefix_rfl, safeStack_starts _⟩)
        (fun _ => shows_traced) (not_shown rfl) (empty_shown rfl)
    | false =>
      refine shows_strings htext (fun text => shows_end rfl rfl rfl ⟨mask secrets message, ?_, ?_⟩)
        (fun _ => shows_traced) (not_shown rfl) (empty_shown rfl)
      · exact List.mem_singleton_self _
      · have hcut : (safeError secrets message).toList <+: (mask secrets message).toList :=
          cut_starts 2048 _
        exact ⟨hcut, (safeStack_starts _).trans hcut⟩
  | stateError trace tests message =>
    refine shows_strings htext (fun text => shows_end rfl rfl rfl ⟨mask secrets message, ?_, ?_⟩)
      (fun _ h => (shows_traced h).append_left) (fun _ h => (shows_asIs h).append_right)
      (empty_shown rfl)
    · exact List.mem_singleton_self _
    · exact ⟨cut_starts 2048 _, List.nil_prefix⟩
  | notSerializable trace tests =>
    exact shows_strings htext (shows_end_asIs rfl rfl rfl rfl rfl)
      (fun _ h => (shows_traced h).append_left) (fun _ h => (shows_asIs h).append_right)
      (empty_shown rfl)
  | finished trace tests state tooLarge =>
    rw [Behaviour.shown]
    dsimp only [execute] at htext
    split at htext
    · rename_i hfailed
      rw [if_pos hfailed]
      exact shows_finished htext (shows_end_asIs rfl rfl rfl rfl rfl) rfl rfl rfl
    · rename_i hpassed
      rw [if_neg hpassed]
      split at htext
      · rename_i hlarge
        rw [if_pos hlarge]
        exact shows_finished htext (shows_end_asIs rfl rfl rfl rfl rfl) rfl rfl rfl
      · rename_i hsmall
        rw [if_neg hsmall]
        exact shows_finished htext (shows_end_asIs rfl rfl rfl rfl rfl) rfl rfl rfl

/-- **What an execution hides.**  A result shows no value that everything it shows keeps back. -/
theorem hides_execute {behaviour : Behaviour}
    {value : String} {known : Prop} (hmasked : contains masked value = false)
    (hknown : known → value ∈ secrets)
    (hkeeps : ∀ one ∈ behaviour.shown number input, one.KeepsBack secrets value known) :
    ∀ text ∈ (execute number secrets input behaviour).strings, contains text value = false :=
  fun _ htext => (strings_execute number input behaviour htext).hides hmasked hknown hkeeps

end Strings

end Rhythm.Scripts.Evidence
