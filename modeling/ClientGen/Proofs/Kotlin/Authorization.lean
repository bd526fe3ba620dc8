import ClientGen.Proofs.Kotlin.BodyMarkers
import ClientGen.Proofs.Kotlin.StringLiterals
import ClientGen.Proofs.Repetition

/-!
# Authorization of calls

An operation may list the security schemes that it asks for, in alternatives that may share
schemes.  Its list counts, even if it is empty, and where it has none the list of the document
does.  A function of the interface says so in one annotation, which has a marker for each
scheme, or in none if no scheme is asked for.  A marker is a string that names the header by a
template; what stands behind the template is read as the scheme, whatever its characters are.

* `firstSeen_securityNames`: the schemes of an operation;
* `IsMarkerFor`, `isMarkerFor_schemeMarker`: how a marker is read;
* `filter_isAuthorization_interfaceLines`: what the lines of a function say about schemes;
* `authorization_agrees`: the operations of a document.
-/

namespace ClientGen

/-- An operation of a document and where it stands. -/
structure PlacedOperation where
  path : String
  method : Method
  operation : Operation

/-- The operations of a document in its order. -/
def Document.operations (d : Document) : List PlacedOperation :=
  d.paths.flatMap fun (path, item) => item.operations.map fun (method, op) => ⟨path, method, op⟩

/-- The requirements that are in force for an operation: its own if it has a list of them,
which may be empty, and else those of the document. -/
def requirementsFor (d : Document) (own : Operation) : List Requirement :=
  match own.security, d.security with
  | some requirements, _ => requirements
  | none, some requirements => requirements
  | none, none => []

/-- The keys of the schemes in some requirements, as often as they come. -/
def schemeKeys (requirements : List Requirement) : List String :=
  requirements.flatMap fun requirement => requirement.map (·.1)

/-- The schemes of an operation are the keys in its requirements, each where it first comes. -/
theorem firstSeen_securityNames (d : Document) (own : Operation) :
    FirstSeen (schemeKeys (requirementsFor d own)) (securityNames d own) := by
  have hrequirements : (own.security.or d.security).getD [] = requirementsFor d own := by
    rw [requirementsFor]
    cases own.security <;> cases d.security <;> rfl
  rw [ClientGen.securityNames, hrequirements]
  exact firstSeen_distinct _

namespace Kotlin

variable {schemas : Schemas} {options : Options} {e : Endpoint} {op : AnalyzedOperation}
  {m : FunctionMarker} {line : String}

/-! ### Lines -/

/-- Whether a line of a function is the annotation with the markers of schemes. -/
def isAuthorization (line : String) : Bool := "@Headers".toList.isPrefixOf line.toList

/-- What each marker starts with: a quote, and a template for the name of the header. -/
def markerTemplate : String := "\"$\x7bApiAuthInterceptor.AUTH_HEADER_NAME\x7d"

/-- A text is a marker for a scheme: behind its template a colon, a blank and the scheme are read,
without another template, and the string ends there, whatever stands behind it. -/
def IsMarkerFor (scheme marker : String) : Prop :=
  ∃ body, marker = markerTemplate ++ body ∧ ∀ opens source,
    readBody opens (body.toList ++ source) = .text (utf16 (": " ++ scheme).toList) source

/-- The marker that is written for a scheme. -/
def schemeMarker (scheme : String) : String :=
  "\"$\x7bApiAuthInterceptor.AUTH_HEADER_NAME\x7d: " ++ escapeString scheme ++ "\""

/-- The annotation with a marker for each of some schemes. -/
def authorizationLine (schemes : List String) : String :=
  "@Headers(" ++ ", ".intercalate (schemes.map schemeMarker) ++ ")"

/-- **Markers** are read as the schemes they are written for. -/
theorem isMarkerFor_schemeMarker (scheme : String) :
    IsMarkerFor scheme (schemeMarker scheme) := by
  have hcolon : escapeString (": " ++ scheme) = ": " ++ escapeString scheme := by
    rw [escapeString_append]
    exact congrArg (· ++ escapeString scheme) (by decide)
  have hfront : "\"$\x7bApiAuthInterceptor.AUTH_HEADER_NAME\x7d: " = markerTemplate ++ ": " := by
    decide
  refine ⟨escapeString (": " ++ scheme) ++ "\"", ?_, fun opens source => ?_⟩
  · have hmarker : schemeMarker scheme =
        markerTemplate ++ ": " ++ escapeString scheme ++ "\"" :=
      congrArg (· ++ escapeString scheme ++ "\"") hfront
    rw [hmarker, hcolon, String.append_assoc, String.append_assoc, String.append_assoc]
  · exact readBody_escapeString (": " ++ scheme) source

/-- The annotation is told by what its line starts with. -/
theorem isAuthorization_iff : isAuthorization line = true ↔ "@Headers".toList <+: line.toList :=
  List.isPrefixOf_iff_prefix

/-- A line starts otherwise if its front neither starts like the annotation nor could be
continued to it. -/
theorem isAuthorization_append_eq_false {front : String} (rest : String)
    (hstart : ¬"@Headers".toList <+: front.toList) (hfront : ¬front.toList <+: "@Headers".toList) :
    isAuthorization (front ++ rest) = false := by
  rw [← Bool.not_eq_true, isAuthorization_iff, String.toList_append]
  intro h
  rcases List.prefix_or_prefix_of_prefix h (List.prefix_append _ _) with h | h
  · exact hstart h
  · exact hfront h

theorem isAuthorization_authorizationLine (schemes : List String) :
    isAuthorization (authorizationLine schemes) = true := by
  have hfront : "@Headers".toList <+: "@Headers(".toList := by decide
  rw [isAuthorization_iff, authorizationLine, String.append_assoc, String.toList_append]
  exact hfront.trans (List.prefix_append _ _)

theorem FunctionMarker.text_verb (method : Method) (path : String) : (verb method path).text =
    "@" ++ method.text ++ "(" ++ stringLiteral path ++ ")" := rfl

theorem FunctionMarker.text_http (method : Method) (path : String) (hasBody : Bool) :
    (http method path hasBody).text =
      "@HTTP(method = \"" ++ method.text ++ "\", path = " ++ stringLiteral path
        ++ (if hasBody then ", hasBody = true)" else ")") := rfl

/-- No annotation about something else is written like one of authorization. -/
theorem isAuthorization_text_eq_false (h : m.role ≠ .authorization) :
    isAuthorization m.text = false := by
  cases m with
  | deprecated =>
      change isAuthorization deprecatedOperation = false
      decide +kernel
  | verb method path =>
      -- No verb is spelled like the annotation, so the bracket behind it settles the case.
      have hfront : ¬"@Headers".toList <+: ("@" ++ method.text ++ "(").toList ∧
          ¬("@" ++ method.text ++ "(").toList <+: "@Headers".toList := by
        cases method <;> decide
      rw [FunctionMarker.text_verb, String.append_assoc]
      exact isAuthorization_append_eq_false _ hfront.1 hfront.2
  | http method path hasBody =>
      rw [FunctionMarker.text_http, String.append_assoc, String.append_assoc, String.append_assoc]
      exact isAuthorization_append_eq_false _ (by decide) (by decide)
  | headers schemes => exact absurd rfl h
  | multipart => decide
  | formUrlEncoded => decide

/-- Annotations about other things leave no line about authorization. -/
theorem filter_isAuthorization_eq_nil {markers : List FunctionMarker}
    (h : ∀ m ∈ markers, m.role ≠ .authorization) :
    (markers.map (·.text)).filter isAuthorization = [] := by
  refine List.filter_eq_nil_iff.mpr fun line hline => ?_
  obtain ⟨m, hm, rfl⟩ := List.mem_map.mp hline
  rw [isAuthorization_text_eq_false (h m hm)]
  exact Bool.false_ne_true

/-- Of the annotations of an operation one is about schemes, if there are any. -/
theorem filter_isAuthorization_markers (op : AnalyzedOperation) :
    ((functionMarkers op).map (·.text)).filter isAuthorization =
      if op.securityNames = [] then [] else [authorizationLine op.securityNames] := by
  have hdeprecated : ∀ m ∈ if op.deprecated then [FunctionMarker.deprecated] else [],
      m.role ≠ .authorization := by
    cases op.deprecated <;> simp [FunctionMarker.role]
  have hcall : ∀ m ∈ [callMarker op], m.role ≠ .authorization := by
    simp [role_callMarker]
  have hform : ∀ m ∈ (formMarker? op).toList, m.role ≠ .authorization := by
    intro m hm
    rw [role_of_formMarker? (Option.mem_toList.mp hm)]
    decide
  have hauth : ((authMarkers? op).toList.map (·.text)).filter isAuthorization =
      if op.securityNames = [] then [] else [authorizationLine op.securityNames] := by
    rw [authMarkers?]
    by_cases hnames : op.securityNames = []
    · simp [hnames]
    · have htext : (FunctionMarker.headers op.securityNames).text =
          authorizationLine op.securityNames := rfl
      simp [hnames, htext, isAuthorization_authorizationLine]
  rw [functionMarkers, List.map_append, List.map_append, List.map_append, List.filter_append,
    List.filter_append, List.filter_append, filter_isAuthorization_eq_nil hdeprecated,
    filter_isAuthorization_eq_nil hcall, filter_isAuthorization_eq_nil hform, hauth,
    List.nil_append, List.nil_append, List.append_nil]

/-- The lines of a function behind its annotations. -/
def FunctionText.signatureLines (f : FunctionText) : List String :=
  if f.interfaceParameters.isEmpty then
    [f.head f.interfaceName ++ "): " ++ f.returnType]
  else
    [f.head f.interfaceName]
      ++ indented 4 (commaLines (f.interfaceParameters.map (·.line)))
      ++ ["): " ++ f.returnType]

/-- A function is its annotations, and its signature behind them. -/
theorem FunctionText.interfaceLines_eq (f : FunctionText) :
    f.interfaceLines = f.markers.map (·.text) ++ f.signatureLines := rfl

/-- A function starts with a word or two. -/
theorem isAuthorization_head_append (options : Options) (op : AnalyzedOperation)
    (name rest : String) :
    isAuthorization ((functionText options op).head name ++ rest) = false := by
  have hfront : ¬"@Headers".toList <+: (modifiers options.callStyle ++ "fun ").toList ∧
      ¬(modifiers options.callStyle ++ "fun ").toList <+: "@Headers".toList := by
    cases options.callStyle <;> decide
  have hhead : (functionText options op).head name =
      modifiers options.callStyle ++ "fun " ++ name ++ "(" := rfl
  rw [hhead, String.append_assoc, String.append_assoc]
  exact isAuthorization_append_eq_false _ hfront.1 hfront.2

/-- No line that is indented starts like the annotation. -/
theorem isAuthorization_of_mem_indented {lines : List String} (h : line ∈ indented 4 lines) :
    isAuthorization line = false := by
  obtain ⟨rest, _, rfl⟩ := List.mem_map.mp h
  exact isAuthorization_append_eq_false rest (by decide) (by decide)

/-- No line of a function behind its annotations is written like one of them. -/
theorem isAuthorization_of_mem_signatureLines
    (h : line ∈ (functionText options op).signatureLines) : isAuthorization line = false := by
  rw [FunctionText.signatureLines] at h
  split at h
  · rw [List.mem_singleton.mp h, String.append_assoc]
    exact isAuthorization_head_append options op _ _
  · rcases List.mem_append.mp h with h | hclose
    · rcases List.mem_append.mp h with hopen | hparameter
      · have hhead := isAuthorization_head_append options op
          (functionText options op).interfaceName ""
        rwa [String.append_empty, ← List.mem_singleton.mp hopen] at hhead
      · exact isAuthorization_of_mem_indented hparameter
    · rw [List.mem_singleton.mp hclose]
      exact isAuthorization_append_eq_false _ (by decide) (by decide)

/-- **One function.**  Its lines hold one annotation with the markers of the schemes of the
operation, or none if it has no schemes. -/
theorem filter_isAuthorization_interfaceLines (options : Options) (op : AnalyzedOperation) :
    (functionText options op).interfaceLines.filter isAuthorization =
      if op.securityNames = [] then [] else [authorizationLine op.securityNames] := by
  have hmarkers : (functionText options op).markers = functionMarkers op := rfl
  have hsignature : (functionText options op).signatureLines.filter isAuthorization = [] := by
    refine List.filter_eq_nil_iff.mpr fun line hline => ?_
    rw [isAuthorization_of_mem_signatureLines hline]
    exact Bool.false_ne_true
  rw [FunctionText.interfaceLines_eq, List.filter_append, hsignature, List.append_nil, hmarkers,
    filter_isAuthorization_markers]

/-- An endpoint stands where an operation of the document does and asks for the schemes that
are in force for it.  Its function in the interface says so, with markers that are read as
these schemes. -/
structure IsAuthorized (d : Document) (own : PlacedOperation) (e : Endpoint) : Prop where
  path : e.path = own.path
  method : e.method = own.method
  schemes : FirstSeen (schemeKeys (requirementsFor d own.operation)) e.securityNames
  written : ∀ schemas options op, e.analyze schemas = .ok op →
    (functionText options op).interfaceLines.filter isAuthorization =
      if e.securityNames = [] then [] else [authorizationLine e.securityNames]
  read : ∀ scheme ∈ e.securityNames, IsMarkerFor scheme (schemeMarker scheme)

/-- An operation asks for the schemes of its endpoint. -/
theorem securityNames_of_analyze (h : e.analyze schemas = .ok op) :
    op.securityNames = e.securityNames := by
  obtain ⟨_, _, rfl⟩ := map_eq_ok_iff.mp h
  rfl

/-- **Authorization.**  The endpoints of a document are its operations in their order.  Each
asks for the schemes in the requirements that are in force for its operation, in the order in
which they first come.  If there are none, the function of the interface has no annotation
with markers; otherwise it has one, with a marker for each scheme in this order, which is read
as that scheme whatever its characters are. -/
theorem authorization_agrees (d : Document) :
    List.Forall₂ (IsAuthorized d) d.operations (Endpoint.ofDocument d) := by
  have hpaths : List.Forall₂ Eq d.paths d.paths := List.forall₂_refl _
  refine List.rel_flatMap hpaths ?_
  rintro ⟨path, item⟩ _ rfl
  rw [List.forall₂_map_left_iff, List.forall₂_map_right_iff]
  refine List.forall₂_same.mpr fun x _ => ⟨rfl, rfl, firstSeen_securityNames d x.2, ?_,
    fun scheme _ => isMarkerFor_schemeMarker scheme⟩
  intro schemas options op h
  rw [filter_isAuthorization_interfaceLines, securityNames_of_analyze h]

/-- An operation with a list of requirements of its own, or without one. -/
def asking (security : Option (List Requirement)) : PathItem :=
  { operations := [(.get, { security })] }

/-- A scheme with characters that have a meaning of their own inside a string. -/
def quotedScheme : String := "key \"\\$1"

/-- A list of requirements with a scheme in two alternatives. -/
def alternatives : List Requirement := [[("bearer", []), (quotedScheme, [])], [("bearer", [])]]

/-- A document that asks for a key, with an operation that leaves it at that, one that asks for
nothing, and one that asks for alternatives. -/
def guarded : Document where
  version := "3.0.3"
  info := ⟨"Pets", none, "1"⟩
  paths := [("/a", asking none), ("/b", asking (some [])), ("/c", asking (some alternatives))]
  security := some [[("apiKey", [])]]

/-- The endpoint of the last of them. -/
def guardedByAlternatives : Endpoint :=
  .ofOperation guarded "/c" [] .get { security := some alternatives }

/-- The scheme that comes in two alternatives has one marker, and the quote, the backslash and
the dollar sign of the other are escaped in its marker. -/
theorem authorization_of_guarded :
    (Endpoint.ofDocument guarded).map (·.securityNames) =
        [["apiKey"], [], ["bearer", quotedScheme]] ∧
      IsMarkerFor quotedScheme
        "\"$\x7bApiAuthInterceptor.AUTH_HEADER_NAME\x7d: key \\\"\\\\\\$1\"" ∧
      ∃ op, guardedByAlternatives.analyze [] = .ok op ∧
        (functionText {} op).interfaceLines.filter isAuthorization =
          ["@Headers(\"$\x7bApiAuthInterceptor.AUTH_HEADER_NAME\x7d: bearer\", " ++
            "\"$\x7bApiAuthInterceptor.AUTH_HEADER_NAME\x7d: key \\\"\\\\\\$1\")"] := by
  have hmem : guardedByAlternatives ∈ Endpoint.ofDocument guarded :=
    List.mem_flatMap.mpr ⟨("/c", asking (some alternatives)), by simp [guarded], List.mem_cons_self⟩
  have hpairs : guardedByAlternatives.pairs [] = .ok [] := rfl
  obtain ⟨op, hop, _⟩ := Endpoint.exists_analyze_of_pairs hpairs
  obtain ⟨_, _, hauthorized⟩ := exists_of_mem_forall₂ (authorization_agrees guarded) hmem
  have hschemes : guardedByAlternatives.securityNames = ["bearer", quotedScheme] := by
    decide +kernel
  have hmarker : schemeMarker quotedScheme =
      "\"$\x7bApiAuthInterceptor.AUTH_HEADER_NAME\x7d: key \\\"\\\\\\$1\"" := by
    decide +kernel
  refine ⟨by decide +kernel, ?_, op, hop, ?_⟩
  · rw [← hmarker]
    exact hauthorized.read quotedScheme (by simp [hschemes])
  · rw [hauthorized.written [] {} op hop, hschemes]
    decide +kernel

end Kotlin

end ClientGen
