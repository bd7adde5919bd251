import Rhythm.Elf.Compiler

/-!
# Rhythm.Elf.Counting

Does a compiled search count what its authored query matches in the window?  The
compiled body has the component's own query, size, sort, total and timeout; every
other key of the authored top level is copied.  So the count is that of the query
exactly when the top level brings no key that narrows it, written by the author
or put there by the renaming of the time field.
-/

namespace Rhythm.Elf

open Text Json

/-! ## What is counted -/

/-- Top-level keys with which a search counts fewer documents than its query matches. -/
def narrowingKeys : List String := ["terminate_after", "min_score", "post_filter", "collapse"]

def matchAll : Json := .obj [("match_all", .obj [])]

/-- The query of a search body; a body without one asks for every document. -/
def queryOf (body : List (String × Json)) : Json :=
  match body.lookup "query" with
  | none | some .null => matchAll
  | some query => query

/-- The range filter on the time field over exactly the window. -/
def windowFilter (timeField gte lte : String) : Json :=
  .obj [("range", .obj [(timeField, .obj [("gte", .str gte), ("lte", .str lte),
    ("format", .str "strict_date_optional_time_nanos")])])]

/-- The time field that `compileSearch` compiles with. -/
def effectiveTimeField (timeField : String) : String :=
  if trimSpace timeField = "" then defaultTimeField else trimSpace timeField

/-- A compiled body that counts what the authored query matches in the window. -/
structure CountsExactly (authored : List (String × Json)) (timeField gte lte : String)
    (size : Int) (compiled : List (String × Json)) : Prop where
  query : compiled.lookup "query" = some (.obj [("bool", .obj
    [("must", .arr [rewriteTimeFieldNodes timeField (queryOf authored)]),
      ("filter", .arr [windowFilter timeField gte lte])])])
  once : (compiled.map Prod.fst).count "query" = 1
  size : compiled.lookup "size" = some (.num (min 100 (max 0 size) : Int))
  total : compiled.lookup "track_total_hits" = some (.bool true)
  timeout : compiled.lookup "timeout" = some (.str "30s")
  sort : compiled.lookup "sort" = some (.arr
    [.obj [(timeField, .obj [("order", .str "desc"), ("unmapped_type", .str "date")])],
      .obj [("_id", .str "desc")]])
  unrestricted : ∀ key ∈ narrowingKeys, compiled.lookup key = none

/-- The value that renaming moves to the time field of an object. -/
def movedAlias (fields : List (String × Json)) : Option Json :=
  (fields.lookup "@timestamp").or (fields.lookup "timestamp")

/-- The top level brings no key that narrows the count, and no query of its own making. -/
structure Unnarrowed (authored : List (String × Json)) (timeField : String) : Prop where
  authored_key : ∀ key ∈ narrowingKeys, authored.lookup key = none
  renamed_key : timeField ∈ narrowingKeys → movedAlias authored = none
  renamed_query : timeField = "query" → authored.lookup "query" = none →
    ∀ value, movedAlias authored = some value → value = .null ∨ value = matchAll

/-! ## Renaming the time field -/

variable {timeField : String} {fields : List (String × Json)}

theorem rewriteFields_eq_map : rewriteFields timeField fields =
    fields.map fun field => (field.1, rewriteTimeFieldNodes timeField field.2) := by
  induction fields with
  | nil => rfl
  | cons field fields ih =>
    obtain ⟨key, child⟩ := field
    rw [rewriteFields, ih]
    rfl

variable {key : String}

theorem lookup_rewriteFields : (rewriteFields timeField fields).lookup key =
    (fields.lookup key).map (rewriteTimeFieldNodes timeField) := by
  rw [rewriteFields_eq_map]
  exact lookup_map (fun _ _ => rfl) fun _ => rfl

theorem movedAlias_rewriteFields : movedAlias (rewriteFields timeField fields) =
    (movedAlias fields).map (rewriteTimeFieldNodes timeField) := by
  rw [movedAlias, movedAlias, lookup_rewriteFields, lookup_rewriteFields, Option.map_or]

theorem lookup_renameAlias {name key : String} (hname : name ≠ timeField) (hkey : key ≠ name) :
    (renameAlias timeField name fields).lookup key =
      if key = timeField then (fields.lookup key).or (fields.lookup name)
      else fields.lookup key := by
  simp only [renameAlias, if_neg hname]
  cases hlookup : fields.lookup name with
  | none => simp
  | some child =>
    have hkept : (fields.filter fun field => field.1 ≠ name).lookup key = fields.lookup key := by
      have hfilter := @lookup_filter _ key fields fun k => k ≠ name
      simpa [hkey] using hfilter
    simp only
    by_cases hpresent : (fields.lookup timeField).isSome = true
    · rw [if_pos hpresent, hkept]
      by_cases htime : key = timeField
      · rw [if_pos htime, htime, Option.or_of_isSome hpresent]
      · rw [if_neg htime]
    · grind

theorem lookup_renameAlias_of_ne {name key : String} (hkey : key ≠ name)
    (htime : key ≠ timeField) :
    (renameAlias timeField name fields).lookup key = fields.lookup key := by
  by_cases hname : name = timeField
  · rw [renameAlias, if_pos hname]
  · rw [lookup_renameAlias hname hkey, if_neg htime]

theorem renameField_fst (field : String × Json) : (renameField timeField field).1 = field.1 := by
  unfold renameField
  split <;> rfl

variable {value : Json}

theorem renameField_of_ne (hkey : key ≠ "field") :
    renameField timeField (key, value) = (key, value) := by
  unfold renameField
  split
  · rename_i heq
    exact absurd (congrArg Prod.fst heq) hkey
  · rfl

theorem lookup_renameField (hkey : key ≠ "field") :
    (fields.map (renameField timeField)).lookup key = fields.lookup key := by
  have hvalue : ∀ value, (renameField timeField (key, value)).2 = value := by
    intro value
    rw [renameField_of_ne hkey]
  rw [lookup_map (fun field _ => renameField_fst field) hvalue, Option.map_id']

/-- What renaming leaves under a key that is no alias: the value that was there, and under the
time field, for want of one, that of an alias. -/
theorem lookup_renameTimeFields (hat : key ≠ "@timestamp")
    (hplain : key ≠ "timestamp") (hfield : key ≠ "field") :
    (renameTimeFields timeField fields).lookup key =
      if key = timeField then (fields.lookup key).or (movedAlias fields)
      else fields.lookup key := by
  rw [renameTimeFields, lookup_renameField hfield]
  by_cases htime : key = timeField
  · grind [lookup_renameAlias, lookup_renameAlias_of_ne, movedAlias]
  · rw [if_neg htime, lookup_renameAlias_of_ne hplain htime, lookup_renameAlias_of_ne hat htime]

/-- The top level of the authored body as it is compiled. -/
abbrev renamedBody (timeField : String) (authored : List (String × Json)) : List (String × Json) :=
  renameTimeFields timeField (rewriteFields timeField authored)

theorem lookup_renamedBody (hkey : key = "query" ∨ key ∈ narrowingKeys) :
    (renamedBody timeField fields).lookup key =
      ((fields.lookup key).or (if key = timeField then movedAlias fields else none)).map
        (rewriteTimeFieldNodes timeField) := by
  have hplain : key ≠ "@timestamp" ∧ key ≠ "timestamp" ∧ key ≠ "field" := by
    obtain rfl | hkey := hkey
    · decide
    · revert hkey key
      decide
  rw [renamedBody, lookup_renameTimeFields hplain.1 hplain.2.1 hplain.2.2, lookup_rewriteFields,
    movedAlias_rewriteFields, Option.map_or]
  by_cases htime : key = timeField
  · rw [if_pos htime, if_pos htime]
  · rw [if_neg htime, if_neg htime, Option.map_none, Option.or_none]

/-! ## The query of the compiled body -/

theorem rewrite_eq_null :
    rewriteTimeFieldNodes timeField value = .null ↔ value = .null := by
  cases value <;> simp [rewriteTimeFieldNodes]

theorem renameTimeFields_of_absent (h : movedAlias fields = none) :
    renameTimeFields timeField fields = fields.map (renameField timeField) := by
  rw [movedAlias, Option.or_eq_none_iff] at h
  have hkeep : ∀ name, fields.lookup name = none → renameAlias timeField name fields = fields := by
    intro name hname
    rw [renameAlias, hname]
    split <;> rfl
  rw [renameTimeFields, hkeep _ h.1, hkeep _ h.2]

theorem renamedBody_of_lookup_query (h : (renamedBody "query" fields).lookup "query" = none) :
    renamedBody "query" fields = fields.map fun field =>
      renameField "query" (field.1, rewriteTimeFieldNodes "query" field.2) := by
  rw [lookup_renamedBody (.inl rfl), if_pos rfl, Option.map_eq_none_iff,
    Option.or_eq_none_iff] at h
  have habsent : movedAlias (rewriteFields "query" fields) = none := by
    rw [movedAlias_rewriteFields, h.2, Option.map_none]
  rw [renamedBody, renameTimeFields_of_absent habsent, rewriteFields_eq_map, List.map_map]
  rfl

theorem rewrite_eq_empty :
    rewriteTimeFieldNodes "query" value = .obj [] ↔ value = .obj [] := by
  constructor
  · intro h
    cases value with
    | null | bool | num | str | arr items => simp [rewriteTimeFieldNodes] at h
    | obj fields =>
      rw [rewriteTimeFieldNodes, Json.obj.injEq] at h
      have hquery : (renamedBody "query" fields).lookup "query" = none := by
        rw [renamedBody, h]
        rfl
      have hkept := renamedBody_of_lookup_query hquery
      rw [renamedBody, h] at hkept
      rw [List.map_eq_nil_iff.mp hkept.symm]
  · intro h
    rw [h]
    rfl

theorem rewrite_eq_matchAll :
    rewriteTimeFieldNodes "query" value = matchAll ↔ value = matchAll := by
  constructor
  · intro h
    cases value with
    | null | bool | num | str | arr items => simp [rewriteTimeFieldNodes, matchAll] at h
    | obj fields =>
      rw [rewriteTimeFieldNodes, matchAll, Json.obj.injEq] at h
      have hquery : (renamedBody "query" fields).lookup "query" = none := by
        rw [renamedBody, h]
        rfl
      have hkept := renamedBody_of_lookup_query hquery
      rw [renamedBody, h] at hkept
      obtain ⟨⟨key, child⟩, rest, rfl, hfield, hrest⟩ := List.map_eq_cons_iff.mp hkept.symm
      simp only at hfield
      obtain rfl : key = "match_all" := by
        have hfst : (renameField "query" (key, rewriteTimeFieldNodes "query" child)).1 = key :=
          renameField_fst _
        rw [← hfst, hfield]
      rw [renameField_of_ne (by decide), Prod.mk.injEq, rewrite_eq_empty] at hfield
      rw [hfield.2, List.map_eq_nil_iff.mp hrest, matchAll]
  · intro h
    rw [h]
    rfl

theorem rewrite_matchAll : rewriteTimeFieldNodes timeField matchAll = matchAll := by
  have hinner : rewriteTimeFieldNodes timeField (.obj []) = .obj [] := by
    rw [rewriteTimeFieldNodes, renameTimeFields_of_absent rfl, rewriteFields]
    rfl
  rw [matchAll, rewriteTimeFieldNodes, renameTimeFields_of_absent rfl, rewriteFields, hinner,
    rewriteFields, List.map_singleton, renameField_of_ne (by decide)]

theorem queryOf_of_none {body : List (String × Json)} (h : body.lookup "query" = none) :
    queryOf body = matchAll := by
  rw [queryOf, h]

variable {query : Json}

theorem queryOf_of_some {body : List (String × Json)}
    (h : body.lookup "query" = some query) (hnull : query ≠ .null) : queryOf body = query := by
  rw [queryOf, h]
  cases query with
  | null => exact absurd rfl hnull
  | bool | num | str | arr | obj => rfl

theorem queryOf_of_null {body : List (String × Json)} (h : body.lookup "query" = some .null) :
    queryOf body = matchAll := by
  rw [queryOf, h]

variable {authored : List (String × Json)}

theorem queryOf_renamedBody :
    queryOf (renamedBody timeField authored) =
        rewriteTimeFieldNodes timeField (queryOf authored) ↔
      (timeField = "query" → authored.lookup "query" = none →
        ∀ value, movedAlias authored = some value → value = .null ∨ value = matchAll) := by
  have hlookup : (renamedBody timeField authored).lookup "query" = _ :=
    lookup_renamedBody (.inl rfl)
  cases hquery : authored.lookup "query" with
  | some query =>
    rw [hquery, Option.some_or, Option.map_some] at hlookup
    refine iff_of_true ?_ fun _ h => absurd h (Option.some_ne_none query)
    by_cases hnull : query = .null
    · subst hnull
      rw [queryOf_of_null hquery, rewrite_matchAll, queryOf_of_null hlookup]
    · rw [queryOf_of_some hquery hnull,
        queryOf_of_some hlookup fun h => hnull (rewrite_eq_null.mp h)]
  | none =>
    rw [hquery, Option.none_or] at hlookup
    rw [queryOf_of_none hquery, rewrite_matchAll]
    by_cases htime : timeField = "query"
    · subst htime
      rw [if_pos rfl] at hlookup
      cases hmoved : movedAlias authored with
      | none =>
        rw [hmoved] at hlookup
        rw [queryOf_of_none hlookup]
        simp
      | some value =>
        rw [hmoved, Option.map_some] at hlookup
        have hmade : queryOf (renamedBody "query" authored) = matchAll ↔
            value = .null ∨ value = matchAll := by
          by_cases hnull : value = .null
          · subst hnull
            rw [queryOf_of_null hlookup]
            simp
          · rw [queryOf_of_some hlookup fun h => hnull (rewrite_eq_null.mp h), rewrite_eq_matchAll]
            simp [hnull]
        rw [hmade]
        simp
    · rw [if_neg (Ne.symm htime)] at hlookup
      rw [queryOf_of_none hlookup]
      simp [htime]

/-! ## The compiled body -/

variable {gte lte : String} {size : Int} {body : List (String × Json)}

def keptFields (body : List (String × Json)) : List (String × Json) :=
  body.filter fun field => field.1 ∉ ["query", "size", "sort", "track_total_hits", "timeout"]

def governedFields (query : Json) (timeField gte lte : String) (size : Int) :
    List (String × Json) :=
  [("query", .obj [("bool", .obj
      [("must", .arr [query]), ("filter", .arr [windowFilter timeField gte lte])])]),
    ("size", .num (min 100 (max 0 size) : Int)),
    ("track_total_hits", .bool true),
    ("timeout", .str "30s"),
    ("sort", .arr
      [.obj [(timeField, .obj [("order", .str "desc"), ("unmapped_type", .str "date")])],
        .obj [("_id", .str "desc")]])]

theorem compiledSearch_eq : compiledSearch body timeField gte lte size =
    .obj (keptFields body ++ governedFields (queryOf body) timeField gte lte size) := rfl

theorem lookup_keptFields : (keptFields body).lookup key =
    if key ∈ ["query", "size", "sort", "track_total_hits", "timeout"] then none
    else body.lookup key := by
  have hfilter := @lookup_filter _ key body fun k =>
    k ∉ ["query", "size", "sort", "track_total_hits", "timeout"]
  rw [keptFields, hfilter]
  by_cases hkey : key ∈ ["query", "size", "sort", "track_total_hits", "timeout"] <;> simp [hkey]

theorem lookup_compiled_of_governed
    (hkey : key ∈ ["query", "size", "sort", "track_total_hits", "timeout"]) :
    (keptFields body ++ governedFields query timeField gte lte size).lookup key =
      (governedFields query timeField gte lte size).lookup key := by
  rw [lookup_append, lookup_keptFields, if_pos hkey, Option.none_or]

theorem lookup_compiled_of_kept
    (hkey : key ∉ ["query", "size", "sort", "track_total_hits", "timeout"]) :
    (keptFields body ++ governedFields query timeField gte lte size).lookup key =
      body.lookup key := by
  have hgoverned : (governedFields query timeField gte lte size).lookup key = none := by
    simp only [List.mem_cons, List.not_mem_nil, or_false, not_or] at hkey
    simp [governedFields, hkey]
  rw [lookup_append, lookup_keptFields, if_neg hkey, hgoverned, Option.or_none]

theorem count_query_compiled :
    ((keptFields body ++ governedFields query timeField gte lte size).map Prod.fst).count
      "query" = 1 := by
  have hkept : ((keptFields body).map Prod.fst).count "query" = 0 := by
    rw [List.count_eq_zero]
    simp [keptFields]
  rw [List.map_append, List.count_append, hkept]
  rfl

theorem countsExactly_compiled :
    CountsExactly authored timeField gte lte size
        (keptFields body ++ governedFields (queryOf body) timeField gte lte size) ↔
      queryOf body = rewriteTimeFieldNodes timeField (queryOf authored) ∧
        ∀ key ∈ narrowingKeys, body.lookup key = none := by
  have hnarrow : ∀ key ∈ narrowingKeys,
      key ∉ ["query", "size", "sort", "track_total_hits", "timeout"] := by decide
  constructor
  · intro h
    have hquery := h.query
    rw [lookup_compiled_of_governed (by decide)] at hquery
    simp only [governedFields, List.lookup_cons_self, Option.some.injEq, Json.obj.injEq,
      List.cons.injEq, Prod.mk.injEq, true_and, and_true, Json.arr.injEq] at hquery
    refine ⟨hquery, fun key hkey => ?_⟩
    rw [← h.unrestricted key hkey, lookup_compiled_of_kept (hnarrow key hkey)]
  · rintro ⟨hquery, hkeys⟩
    constructor
    · rw [lookup_compiled_of_governed (by decide), hquery]
      rfl
    · exact count_query_compiled
    · rw [lookup_compiled_of_governed (by decide)]
      rfl
    · rw [lookup_compiled_of_governed (by decide)]
      rfl
    · rw [lookup_compiled_of_governed (by decide)]
      rfl
    · rw [lookup_compiled_of_governed (by decide)]
      rfl
    · intro key hkey
      rw [lookup_compiled_of_kept (hnarrow key hkey), hkeys key hkey]

theorem unnarrowed_iff : Unnarrowed authored timeField ↔
    queryOf (renamedBody timeField authored) =
        rewriteTimeFieldNodes timeField (queryOf authored) ∧
      ∀ key ∈ narrowingKeys, (renamedBody timeField authored).lookup key = none := by
  have hkeys : (∀ key ∈ narrowingKeys, (renamedBody timeField authored).lookup key = none) ↔
      (∀ key ∈ narrowingKeys, authored.lookup key = none) ∧
        (timeField ∈ narrowingKeys → movedAlias authored = none) := by
    have hkey : ∀ key ∈ narrowingKeys, (renamedBody timeField authored).lookup key = none ↔
        authored.lookup key = none ∧ (key = timeField → movedAlias authored = none) := by
      grind [lookup_renamedBody, Option.map_eq_none_iff, Option.or_eq_none_iff]
    constructor
    · grind
    · rintro ⟨hauthored, hmoved⟩ key hmem
      exact (hkey key hmem).mpr ⟨hauthored key hmem, fun h => hmoved (h ▸ hmem)⟩
  rw [queryOf_renamedBody, hkeys]
  constructor
  · intro h
    exact ⟨h.renamed_query, h.authored_key, h.renamed_key⟩
  · rintro ⟨hquery, hauthored, hmoved⟩
    exact ⟨hauthored, hmoved, hquery⟩

/-! ## Accepted bodies -/

theorem compiledBody_of_valid {unmarshal : ByteArray → Except String (List (String × Json))}
    {body : ByteArray} (h : (compileSearch unmarshal body timeField gte lte size).valid = true)
    (hbody : unmarshal body = .ok authored) :
    (compileSearch unmarshal body timeField gte lte size).compiledBody =
      some (compiledSearch (renamedBody (effectiveTimeField timeField) authored)
        (effectiveTimeField timeField) gte lte size) := by
  simp only [compileSearch] at h ⊢
  split at h
  · simp [ValidationResult.rejected] at h
  · rename_i hsize
    simp only [hbody] at h ⊢
    rw [if_neg hsize]
    refine (congrArg ValidationResult.compiledBody (if_neg fun hproblems => ?_)).trans rfl
    rw [if_pos hproblems] at h
    simp [ValidationResult.rejected] at h

/-- **Exact counts.**  For every decoder, every body that `compileSearch` accepts, every window and
every size: the compiled body counts exactly what the authored query matches in
the window when, and only when, the authored top level does not narrow it. -/
theorem countsExactly_iff (unmarshal : ByteArray → Except String (List (String × Json)))
    (body : ByteArray) (timeField gte lte : String) (size : Int) (authored : List (String × Json))
    (hvalid : (compileSearch unmarshal body timeField gte lte size).valid = true)
    (hbody : unmarshal body = .ok authored) :
    (∃ compiled,
      (compileSearch unmarshal body timeField gte lte size).compiledBody = some (.obj compiled) ∧
        CountsExactly authored (effectiveTimeField timeField) gte lte size compiled) ↔
      Unnarrowed authored (effectiveTimeField timeField) := by
  rw [compiledBody_of_valid hvalid hbody, compiledSearch_eq, unnarrowed_iff]
  constructor
  · rintro ⟨compiled, hcompiled, hcounts⟩
    rw [Option.some.injEq, Json.obj.injEq] at hcompiled
    exact countsExactly_compiled.mp (hcompiled ▸ hcounts)
  · intro h
    exact ⟨_, rfl, countsExactly_compiled.mpr h⟩

/-- A search for everything counts everything. -/
theorem countsExactly_match_all :
    (∃ compiled,
      (compileSearch (fun _ => .ok [("query", matchAll)])
        "\x7b\"query\":\x7b\"match_all\":\x7b\x7d\x7d\x7d".toUTF8 "@timestamp"
        "2026-01-01T00:00:00Z" "2026-01-02T00:00:00Z" 10).compiledBody = some (.obj compiled) ∧
        CountsExactly [("query", matchAll)] (effectiveTimeField "@timestamp")
          "2026-01-01T00:00:00Z" "2026-01-02T00:00:00Z" 10 compiled) ↔
      Unnarrowed [("query", matchAll)] (effectiveTimeField "@timestamp") :=
  countsExactly_iff (fun _ => .ok [("query", matchAll)])
    "\x7b\"query\":\x7b\"match_all\":\x7b\x7d\x7d\x7d".toUTF8 "@timestamp"
    "2026-01-01T00:00:00Z" "2026-01-02T00:00:00Z" 10 _ (by decide) rfl

/-- A body that stops after one document is accepted, and stops after one document. -/
theorem terminate_after_survives :
    ¬ ∀ (unmarshal : ByteArray → Except String (List (String × Json))) (body : ByteArray)
      (timeField gte lte : String) (size : Int) (authored : List (String × Json)),
      (compileSearch unmarshal body timeField gte lte size).valid = true →
        unmarshal body = .ok authored →
          ∃ compiled,
            (compileSearch unmarshal body timeField gte lte size).compiledBody =
                some (.obj compiled) ∧
              CountsExactly authored (effectiveTimeField timeField) gte lte size compiled := by
  intro h
  obtain ⟨compiled, hcompiled, hcounts⟩ :=
    h (fun _ => .ok [("terminate_after", .num 1)]) "\x7b\"terminate_after\":1\x7d".toUTF8
      "@timestamp" "2026-01-01T00:00:00Z" "2026-01-02T00:00:00Z" 10 _ (by decide) rfl
  have hkey := hcounts.unrestricted "terminate_after" (by decide)
  cases hcompiled
  revert hkey
  decide

end Rhythm.Elf
