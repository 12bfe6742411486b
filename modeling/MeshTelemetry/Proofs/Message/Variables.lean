import MeshTelemetry.Proofs.Message.RoundTrip
import MeshTelemetry.Proofs.Text

/-!
# Variables of queries and forms

A query and a form are `name=value` terms with `&` between them. A name is looked up for its first
term and nothing else: a name that is part of another is not found there, a value may have `=` in it,
and a term without `=` is passed over. The wire takes a query apart at the same `&` and joins it
again, so a receiver finds what the sender put in.
-/

namespace MeshTelemetry

namespace Text

/-- The term that gives a name its value. -/
def term (name value : String) : String := name.push '=' ++ value

/-- The value is that of the first term with this name. A term's name reaches to its first `=`. -/
def FirstValue (text name value : String) : Prop :=
  ∃ before found after, IsParted '&' text (before ++ found :: after) ∧
    IsCut '=' found name value ∧ ∀ earlier ∈ before, ∀ other, ¬ IsCut '=' earlier name other

/-- The value that a term gives to a name. -/
def termValue? (name found : String) : Option String :=
  match cutFirst? '=' found with
  | some (key, value) => if key = name then some value else none
  | none => none

theorem formVariable?_eq (name text : String) :
    formVariable? name text = (split '&' text).findSome? (termValue? name) := rfl

theorem termValue?_eq_some_iff {name found value : String} :
    termValue? name found = some value ↔ IsCut '=' found name value := by
  rw [← cutFirst?_eq_some_iff, termValue?]
  cases cutFirst? '=' found with
  | none => simp
  | some cut =>
    obtain ⟨key, held⟩ := cut
    simp only [Option.some.injEq, Prod.mk.injEq]
    split
    · simp [*]
    · simp [*]

theorem termValue?_eq_none_iff {name found : String} :
    termValue? name found = none ↔ ∀ value, ¬ IsCut '=' found name value := by
  simp only [← termValue?_eq_some_iff, Option.eq_none_iff_forall_ne_some, ne_eq]

theorem formVariable?_eq_some_iff {name text value : String} :
    formVariable? name text = some value ↔ FirstValue text name value := by
  simp only [formVariable?_eq, List.findSome?_eq_some_iff, termValue?_eq_some_iff,
    termValue?_eq_none_iff, split_eq_iff, FirstValue]

/-- A text cannot name what its terms cannot spell. -/
theorem FirstValue.not_mem_name {text name value : String} (h : FirstValue text name value) :
    '=' ∉ name.toList ∧ '&' ∉ name.toList := by
  obtain ⟨before, found, after, hparted, hcut, _⟩ := h
  refine ⟨hcut.first, fun hmem => hparted.whole found (by simp) ?_⟩
  rw [← hcut.joined]
  simp [hmem]

theorem formVariable?_eq_none {name : String} (hname : '=' ∈ name.toList ∨ '&' ∈ name.toList)
    (text : String) : formVariable? name text = none := by
  rw [Option.eq_none_iff_forall_ne_some]
  intro value h
  have hvalue := formVariable?_eq_some_iff.mp h
  exact hname.elim hvalue.not_mem_name.1 hvalue.not_mem_name.2

/-- The terms are looked through one after another; the empty text has none. -/
theorem formVariable?_join (name : String) {terms : List String}
    (h : ∀ found ∈ terms, '&' ∉ found.toList) :
    formVariable? name (join '&' terms) = terms.findSome? (termValue? name) := by
  cases terms with
  | nil => rfl
  | cons first rest => rw [formVariable?_eq, split_join (List.cons_ne_nil _ _) h]

/-- A term without `=` may as well be left out. -/
theorem formVariable?_nameless (name : String) {text nameless : String} {before after : List String}
    (hparted : IsParted '&' text (before ++ nameless :: after)) (hnameless : '=' ∉ nameless.toList) :
    formVariable? name text = formVariable? name (join '&' (before ++ after)) := by
  have hnone : termValue? name nameless = none := by
    rw [termValue?, cutFirst?_eq_none_iff.mpr hnameless]
  have hrest : ∀ found ∈ before ++ after, '&' ∉ found.toList := by
    intro found hmem
    refine hparted.whole found ?_
    rcases List.mem_append.mp hmem with hbefore | hafter
    · exact List.mem_append_left _ hbefore
    · exact List.mem_append_right _ (List.mem_cons_of_mem _ hafter)
  rw [formVariable?_join name hrest, ← hparted.joined, formVariable?_join name hparted.whole]
  simp [List.findSome?_append, hnone]

/-- The terms of a form, which names and values do not disturb. A query is trimmed at its front, so
its first name may not begin with what is trimmed. -/
structure IsForm (terms : List (String × String)) : Prop where
  spelled : ∀ entry ∈ terms,
    '=' ∉ entry.1.toList ∧ '&' ∉ entry.1.toList ∧ '&' ∉ entry.2.toList
  opening : ∀ entry ∈ terms.head?, entry.1.toList.head? ≠ some '?'

def formText (terms : List (String × String)) : String :=
  join '&' (terms.map fun entry => term entry.1 entry.2)

theorem termValue?_term {key : String} (hkey : '=' ∉ key.toList) (name value : String) :
    termValue? name (term key value) = if key = name then some value else none := by
  have hcut : IsCut '=' (term key value) key value := ⟨hkey, rfl⟩
  rw [termValue?, hcut.cutFirst?]

/-- Each name has the value of its first term. -/
theorem formVariable?_formText (name : String) {terms : List (String × String)}
    (h : IsForm terms) : formVariable? name (formText terms) = terms.lookup name := by
  have hterms : ∀ found ∈ terms.map fun entry => term entry.1 entry.2, '&' ∉ found.toList := by
    intro found hmem
    obtain ⟨entry, hentry, rfl⟩ := List.mem_map.mp hmem
    obtain ⟨_, hname, hvalue⟩ := h.spelled entry hentry
    simp [term, hname, hvalue]
  rw [formText, formVariable?_join name hterms, List.findSome?_map]
  have hspelled := h.spelled
  clear h hterms
  induction terms with
  | nil => rfl
  | cons entry rest ih =>
    obtain ⟨⟨hname, _⟩, hrest⟩ := List.forall_mem_cons.mp hspelled
    rw [List.findSome?_cons, List.lookup_cons, ← ih hrest, Function.comp_apply,
      termValue?_term hname]
    by_cases hsame : entry.1 = name
    · simp [hsame]
    · simp [hsame, beq_false_of_ne (Ne.symm hsame)]

theorem dropLeading_formText {terms : List (String × String)} (h : IsForm terms) :
    dropLeading '?' (formText terms) = formText terms := by
  apply dropLeading_of_head
  cases terms with
  | nil => simp [formText, join]
  | cons entry rest =>
    obtain ⟨behind, hletters⟩ : ∃ behind,
        (formText (entry :: rest)).toList = entry.1.toList ++ '=' :: behind := by
      cases rest <;> simp [formText, join, term, List.intercalate_cons_cons]
    have hentry := h.opening entry rfl
    rw [hletters, List.head?_append]
    cases hfirst : entry.1.toList.head? with
    | none => simp
    | some letter => rwa [Option.some_or, ← hfirst]

end Text

namespace Message

theorem queryVariable?_eq_some_iff {message : Message} {name value : String} :
    message.queryVariable? name = some value ↔
      ∃ query, message.uriQuery = some query ∧ Text.FirstValue query name value := by
  simp only [queryVariable?, Option.bind_eq_some_iff, Text.formVariable?_eq_some_iff]

theorem postVariable?_eq_some_iff {message : Message} {name value : String} :
    message.postVariable? name = some value ↔
      ∃ body, Text.utf8 body = message.payload ∧ Text.FirstValue body name value := by
  simp only [postVariable?, Option.bind_eq_some_iff, Text.ofUtf8?_eq_some_iff,
    Text.formVariable?_eq_some_iff]

theorem queryVariable?_setUriQuery_formText (message : Message) {terms : List (String × String)}
    (h : Text.IsForm terms) (name : String) :
    (message.setUriQuery (Text.formText terms)).2.queryVariable? name = terms.lookup name := by
  simp only [queryVariable?, setUriQuery, Text.dropLeading_formText h, Option.bind_some,
    Text.formVariable?_formText name h]

/-- What a receiver finds in a form that was sent as the query. -/
theorem decode_of_encode_formText {message : Message} (hreachable : message.Reachable)
    {terms : List (String × String)} (hterms : Text.IsForm terms) {bytes : Bytes}
    (h : (message.setUriQuery (Text.formText terms)).2.encode = .ok bytes) :
    (message.isEmpty = false → message.proxyUri = none → message.proxyScheme = none →
      ∃ received, decode bytes = .ok received ∧
        ∀ name, received.queryVariable? name = terms.lookup name) ∧
    (message.isEmpty = true →
      ∃ received, decode bytes = .ok received ∧ ∀ name, received.queryVariable? name = none) ∧
    (message.isEmpty = false → message.proxyUri ≠ none ∨ message.proxyScheme ≠ none →
      ∃ number, decode bytes = .error (.proxyingNotSupported number)) := by
  have hlimits := (hreachable.set (.uriQuery (Text.formText terms))).withinLimits
  refine ⟨?_, ?_, ?_⟩
  · intro hcode huri hscheme
    exact ⟨_, decode_eq_of_decodeWithTelemetry
      (decodeWithTelemetry_encodeWith hlimits hcode huri hscheme h),
      queryVariable?_setUriQuery_formText message hterms⟩
  · intro hempty
    have hsent : (message.setUriQuery (Text.formText terms)).2.isEmpty = true := hempty
    rw [encode, encodeWith_of_isEmpty hsent, Except.ok.injEq] at h
    subst h
    exact ⟨_, decode_eq_of_decodeWithTelemetry (decodeWithTelemetry_header _ _), fun _ => rfl⟩
  · intro hcode hproxy
    cases huri : message.proxyUri with
    | some uri =>
      exact ⟨35, decode_eq_error_of_decodeWithTelemetry
        (decodeWithTelemetry_of_encode_proxyUri hlimits.token hcode huri h)⟩
    | none =>
      obtain ⟨scheme, hscheme⟩ :=
        Option.ne_none_iff_exists'.mp (hproxy.resolve_left (not_not_intro huri))
      exact ⟨39, decode_eq_error_of_decodeWithTelemetry
        (decodeWithTelemetry_of_encode_proxyScheme hlimits.token hcode huri hscheme h)⟩

/-- **Variables.** A name is looked up exactly in the query, and in a payload that is text. A form
that goes out as a query gives the receiver each name with the value of its first term, unless the
code is the empty one, which takes no query along, or a proxy option has the message refused. -/
theorem variable_iff_firstValue (message : Message) :
    (∀ name value, message.queryVariable? name = some value ↔
      ∃ query, message.uriQuery = some query ∧ Text.FirstValue query name value) ∧
    (∀ name value, message.postVariable? name = some value ↔
      ∃ body, Text.utf8 body = message.payload ∧ Text.FirstValue body name value) ∧
    (∀ name, '=' ∈ name.toList ∨ '&' ∈ name.toList →
      message.queryVariable? name = none ∧ message.postVariable? name = none) ∧
    (∀ text before nameless after, Text.IsParted '&' text (before ++ nameless :: after) →
      '=' ∉ nameless.toList → ∀ name,
      (message.uriQuery = some text → message.queryVariable? name
        = { message with uriQuery := some (Text.join '&' (before ++ after)) }.queryVariable? name) ∧
      (message.payload = Text.utf8 text → message.postVariable? name
        = { message with
            payload := Text.utf8 (Text.join '&' (before ++ after)) }.postVariable? name)) ∧
    (message.Reachable → ∀ terms, Text.IsForm terms → ∀ bytes,
      (message.setUriQuery (Text.formText terms)).2.encode = .ok bytes →
      (message.isEmpty = false → message.proxyUri = none → message.proxyScheme = none →
        ∃ received, decode bytes = .ok received ∧
          ∀ name, received.queryVariable? name = terms.lookup name) ∧
      (message.isEmpty = true →
        ∃ received, decode bytes = .ok received ∧ ∀ name, received.queryVariable? name = none) ∧
      (message.isEmpty = false → message.proxyUri ≠ none ∨ message.proxyScheme ≠ none →
        ∃ number, decode bytes = .error (.proxyingNotSupported number))) := by
  refine ⟨fun _ _ => queryVariable?_eq_some_iff, fun _ _ => postVariable?_eq_some_iff, ?_, ?_,
    fun hreachable _ hterms _ h => decode_of_encode_formText hreachable hterms h⟩
  · intro name hname
    have hnone := Text.formVariable?_eq_none hname
    exact ⟨Option.bind_eq_none_iff.mpr fun query _ => hnone query,
      Option.bind_eq_none_iff.mpr fun body _ => hnone body⟩
  · intro text before nameless after hparted hnameless name
    have hskip := Text.formVariable?_nameless name hparted hnameless
    constructor
    · intro hquery
      simp only [queryVariable?, hquery, Option.bind_some, hskip]
    · intro hpayload
      simp only [postVariable?, hpayload, Text.ofUtf8?_utf8, Option.bind_some, hskip]

/-- A request with the query `a=1&ab=x=y&a=2`. -/
def formRequest : Bytes :=
  [0x40, 1, 0, 1, 0xD3, 2, 0x61, 0x3D, 0x31, 6, 0x61, 0x62, 0x3D, 0x78, 0x3D, 0x79, 3, 0x61, 0x3D,
    0x32]

/-- Of two terms with one name the first counts, a value may have `=` in it, and the `b` at the end of
a name is no name. -/
theorem variable_iff_firstValue_formRequest :
    let terms := [("a", "1"), ("ab", "x=y"), ("a", "2")]
    let bare : Message := { kind := .confirmable, code := .get, messageId := 1 }
    let held : Message := { bare with uriQuery := some "x&a=1" }
    (bare.setUriQuery (Text.formText terms)).2.encode = .ok formRequest ∧
      (∃ received, decode formRequest = .ok received ∧ received.queryVariable? "a" = some "1" ∧
        received.queryVariable? "ab" = some "x=y" ∧ received.queryVariable? "b" = none) ∧
      held.queryVariable? "a=1" = none ∧
      held.queryVariable? "a" = { held with uriQuery := some "a=1" }.queryVariable? "a" := by
  intro terms bare held
  have hform : Text.IsForm terms := ⟨by decide, by decide⟩
  have hencode : (bare.setUriQuery (Text.formText terms)).2.encode = .ok formRequest := by
    decide +kernel
  have hsent := (variable_iff_firstValue bare).2.2.2.2 (.bare .confirmable .get 1) terms hform _ hencode
  obtain ⟨received, hread, hlookup⟩ := hsent.1 rfl rfl rfl
  obtain ⟨_, _, hnames, hskip, _⟩ := variable_iff_firstValue held
  have hparted : Text.IsParted '&' "x&a=1" ([] ++ "x" :: ["a=1"]) :=
    Text.split_eq_iff.mp (by decide +kernel)
  exact ⟨hencode, ⟨received, hread, hlookup "a", hlookup "ab", hlookup "b"⟩,
    (hnames "a=1" (.inl (by decide))).1, (hskip _ _ _ _ hparted (by decide) "a").1 rfl⟩

/-- The empty code leaves the query behind, and a proxy option has the message refused. -/
theorem query_lost_on_the_way :
    let bare : Message := { kind := .confirmable, code := .empty, messageId := 1 }
    let proxied : Message := { bare with code := .get, proxyUri := some "p" }
    let query := Text.formText [("a", "1")]
    (bare.Reachable ∧ (bare.setUriQuery query).2.encode = .ok [0x40, 0, 0, 1] ∧
      decode [0x40, 0, 0, 1] = .ok bare ∧ bare.queryVariable? "a" = none) ∧
    proxied.Reachable ∧ (proxied.setUriQuery query).2.encode
        = .ok [0x40, 1, 0, 1, 0xD3, 2, 0x61, 0x3D, 0x31, 0xD1, 7, 0x70] ∧
      decode [0x40, 1, 0, 1, 0xD3, 2, 0x61, 0x3D, 0x31, 0xD1, 7, 0x70]
        = .error (.proxyingNotSupported 35) := by
  intro bare proxied query
  have hproxied : proxied.Reachable := .set (.proxyUri "p") (.bare .confirmable .get 1)
  exact ⟨⟨.bare .confirmable .empty 1, by decide +kernel, by decide +kernel, rfl⟩, hproxied,
    by decide +kernel, by decide +kernel⟩

end Message

end MeshTelemetry
