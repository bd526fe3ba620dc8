import ClientGen.Analysis.Notice
import ClientGen.Kotlin.Lexical
import ClientGen.Kotlin.SourceFile
import ClientGen.Settings
import ClientGen.Text.Blank
import ClientGen.Text.Casing
import ClientGen.Unique

/-!
# The interceptor that adds credentials

One file with an object that attaches credentials to marked requests.  It has a
constant for each declared security scheme and knows where the credential of each
goes, if that can be told.
-/

namespace ClientGen.Kotlin

/-- The header that marks a request. -/
def markerHeader : String := "X-Auth-Scheme"

/-- The constant that is there already. -/
def markerConstant : String := "AUTH_HEADER_NAME"

/-- Where a credential goes. -/
inductive CredentialPlace where
  /-- A header, with something in front of the credential. -/
  | header (name : String) (lead : Option String)
  | query (name : String)
  | cookie (name : String)
  deriving DecidableEq, Repr

/-- The place as it is written. -/
def CredentialPlace.text : CredentialPlace → String
  | header name none => "Placement.Header(" ++ stringLiteral name ++ ")"
  | header name (some lead) =>
    "Placement.Header(" ++ stringLiteral name ++ ", " ++ stringLiteral lead ++ ")"
  | query name => "Placement.Query(" ++ stringLiteral name ++ ")"
  | cookie name => "Placement.Cookie(" ++ stringLiteral name ++ ")"

/-- What stands in front of the credential of a scheme of HTTP authentication: the
scheme with a capital, and a blank. -/
def credentialLead (scheme : String) : String :=
  match Text.trimChars scheme.toList with
  | [] => ""
  | c :: cs => String.ofList (Text.upper c ++ cs.map Char.toLower ++ [' '])

/-- Where the credential of a scheme goes, if that can be told. -/
def credentialPlace? (s : SecurityScheme) : Option CredentialPlace :=
  match s.kind with
  | .apiKey =>
    s.name.map fun name =>
      match s.location with
      | some .query => .query name
      | some .cookie => .cookie name
      | some .header => .header name none
      | none => .header name none
  | .http => some (.header "Authorization" (some (credentialLead (s.scheme.getD "bearer"))))
  | .oauth2 => some (.header "Authorization" (some "Bearer "))
  | .openIdConnect => some (.header "Authorization" (some "Bearer "))
  | .mutualTls => none

/-- The name of the constant of a scheme before it is made unique. -/
def schemeConstant (key : String) : String :=
  let constant := (Name.ofText key).screaming
  if constant = markerConstant then constant ++ "_SCHEME" else constant

/-- The names of the constants of some schemes. -/
def schemeConstants (keys : List String) : List String :=
  uniqueNames "_" (keys.map schemeConstant)

/-- A scheme as it is written. -/
structure SchemeText where
  constant : String
  key : String
  place : Option CredentialPlace
  deriving DecidableEq, Repr

/-- The schemes of a document. -/
def schemeTexts (schemes : List (String × SecurityScheme)) : List SchemeText :=
  List.zipWith (fun (key, scheme) constant => ⟨constant, key, credentialPlace? scheme⟩)
    schemes (schemeConstants (schemes.map (·.1)))

/-- Entries of a list with commas between them. -/
def entryLines : List String → List String
  | [] => []
  | [line] => ["        " ++ line]
  | line :: rest => ("        " ++ line ++ ",") :: entryLines rest

/-- The interceptor up to the constants of the schemes. -/
def interceptorHead : List String :=
  ["/**",
   " * Applies credentials to requests marked with [AUTH_HEADER_NAME].",
   " *",
   " * Each marker names a security scheme; the marker is removed and the",
   " * credential registered for that scheme is attached instead.",
   " */",
   "object ApiAuthInterceptor : Interceptor \x7b",
   "    const val " ++ markerConstant ++ " = " ++ stringLiteral markerHeader]

/-- The interceptor between the constants and the places of the credentials. -/
def interceptorPlaces : List String :=
  ["",
   "    private sealed class Placement \x7b",
   "        data class Header(val name: String, val prefix: String = \"\") : Placement()",
   "        data class Query(val name: String) : Placement()",
   "        data class Cookie(val name: String) : Placement()",
   "    \x7d",
   "",
   "    private val placements: Map<String, Placement> = mapOf("]

/-- The interceptor behind the places of the credentials. -/
def interceptorMembers : List String :=
  ["    )",
   "",
   "    private val credentials = ConcurrentHashMap<String, String>()",
   "",
   "    /** Register the credential for [scheme], or remove it with `null`. */",
   "    fun setCredential(scheme: String, credential: String?) \x7b",
   "        if (credential == null) \x7b",
   "            credentials.remove(scheme)",
   "        \x7d else \x7b",
   "            credentials[scheme] = credential",
   "        \x7d",
   "    \x7d",
   "",
   "    /** Register a basic credential for an `http` scheme. */",
   "    fun setBasicCredential(scheme: String, username: String, password: String) \x7b",
   "        credentials[scheme] = Credentials.basic(username, password).removePrefix(\"Basic \")",
   "    \x7d",
   "",
   "    fun clearCredentials() = credentials.clear()",
   "",
   "    override fun intercept(chain: Interceptor.Chain): Response \x7b",
   "        val request = chain.request()",
   "        val schemes = request.headers(AUTH_HEADER_NAME)",
   "        if (schemes.isEmpty()) \x7b",
   "            return chain.proceed(request)",
   "        \x7d",
   "",
   "        val builder = request.newBuilder().removeHeader(AUTH_HEADER_NAME)",
   "        var url = request.url",
   "        for (scheme in schemes) \x7b",
   "            val credential = credentials[scheme] ?: continue",
   "            when (val placement = placements[scheme]) \x7b",
   "                is Placement.Header -> " ++
     "builder.header(placement.name, placement.prefix + credential)",
   "                is Placement.Query -> url = url.newBuilder()",
   "                    .addQueryParameter(placement.name, credential)",
   "                    .build()",
   "                is Placement.Cookie -> " ++
     "builder.addHeader(\"Cookie\", \"$\x7bplacement.name\x7d=$credential\")",
   "                null -> Unit",
   "            \x7d",
   "        \x7d",
   "        return chain.proceed(builder.url(url).build())",
   "    \x7d",
   "\x7d"]

/-- The lines of the interceptor. -/
def interceptorLines (schemes : List SchemeText) : List String :=
  interceptorHead
    ++ (schemes.map fun s => "    const val " ++ s.constant ++ " = " ++ stringLiteral s.key)
    ++ interceptorPlaces
    ++ entryLines (schemes.filterMap fun s => s.place.map fun p => s.constant ++ " to " ++ p.text)
    ++ interceptorMembers

/-- The file of the interceptor. -/
def interceptorFile (options : Options) (d : Document) : SourceFile where
  package := options.packageName
  fileName := "ApiAuthInterceptor"
  imports := .ofList
    ["java.util.concurrent.ConcurrentHashMap", "okhttp3.Credentials", "okhttp3.Interceptor",
      "okhttp3.Response"]
  declarations := ["\n".intercalate (interceptorLines (schemeTexts d.securitySchemes))]

/-- What is remarked about the schemes of a document. -/
def schemeNotices (d : Document) : List Notice :=
  (d.securitySchemes.filter fun (_, s) => s.kind == .apiKey && s.name.isNone).map
    fun (key, _) => .namelessKey key

end ClientGen.Kotlin
