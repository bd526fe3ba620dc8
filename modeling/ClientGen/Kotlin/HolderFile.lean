import ClientGen.Document.Basic
import ClientGen.Kotlin.SourceFile
import ClientGen.Kotlin.TypeText
import ClientGen.Settings
import ClientGen.Text.Blank

/-!
# The holder of the services

One file with an object that creates the services behind the interfaces.  It
carries the title of the document in its comment and the address of its first
server as the default.
-/

namespace ClientGen.Kotlin

/-- The address when a document names no server. -/
def fallbackUrl : String := "http://localhost/"

/-- Whether a text has another one inside. -/
def contains (part : List Char) : List Char → Bool
  | [] => part.isEmpty
  | c :: cs => part.isPrefixOf (c :: cs) || contains part cs

/-- An address that names its scheme, with a slash at the end. -/
def absoluteUrl (url : String) : String :=
  let full :=
    if contains "://".toList url.toList then url
    else fallbackUrl ++ String.ofList (url.toList.dropWhile (· = '/'))
  if full.toList.getLast? = some '/' then full else full ++ "/"

/-- The address of the first server. -/
def baseUrl (d : Document) : String :=
  match (d.servers.head?.map fun s => Text.trim s.url).filter (· ≠ "") with
  | some url => absoluteUrl url
  | none => fallbackUrl

/-- What the holder needs imported. -/
def holderImports (style : CallStyle) : List String :=
  ["com.squareup.moshi.FromJson", "com.squareup.moshi.Moshi", "com.squareup.moshi.ToJson",
    "okhttp3.OkHttpClient", "retrofit2.Retrofit", "retrofit2.converter.moshi.MoshiConverterFactory",
    localDate, offsetDateTime]
    ++ if style = .observable then ["retrofit2.adapter.rxjava2.RxJava2CallAdapterFactory"] else []

/-- The holder up to the address. -/
def holderHead (title url : String) : List String :=
  ["/**",
   " * Creates and caches the Retrofit services of " ++ title ++ ".",
   " *",
   " * Changing [baseUrl] or [client] drops every cached service.",
   " */",
   "object ApiHolder \x7b",
   "    const val DEFAULT_BASE_URL = " ++ stringLiteral url]

/-- The holder between the address and the adapter of the call style. -/
def holderFields : List String :=
  ["",
   "    private val apis = mutableMapOf<Class<*>, Any>()",
   "",
   "    var baseUrl: String = DEFAULT_BASE_URL",
   "        set(value) \x7b",
   "            field = value",
   "            invalidate()",
   "        \x7d",
   "",
   "    var client: OkHttpClient = OkHttpClient.Builder()",
   "        .addInterceptor(ApiAuthInterceptor)",
   "        .build()",
   "        set(value) \x7b",
   "            field = value",
   "            invalidate()",
   "        \x7d",
   "",
   "    val moshi: Moshi = Moshi.Builder()",
   "        .add(JavaTimeAdapter)",
   "        .build()",
   "",
   "    private var retrofit: Retrofit = createRetrofit()",
   "",
   "    private fun createRetrofit(): Retrofit = Retrofit.Builder()",
   "        .baseUrl(baseUrl)",
   "        .client(client)",
   "        .addConverterFactory(MoshiConverterFactory.create(moshi))"]

/-- The adapter that observables need. -/
def observableAdapter : String :=
  "        .addCallAdapterFactory(RxJava2CallAdapterFactory.create())"

/-- The holder behind the adapter of the call style. -/
def holderMembers : List String :=
  ["        .build()",
   "",
   "    @Synchronized",
   "    private fun invalidate() \x7b",
   "        retrofit = createRetrofit()",
   "        apis.clear()",
   "    \x7d",
   "",
   "    @Synchronized",
   "    fun <T : Any> getApi(type: Class<T>): T \x7b",
   "        @Suppress(\"UNCHECKED_CAST\")",
   "        return apis.getOrPut(type) \x7b retrofit.create(type) \x7d as T",
   "    \x7d",
   "",
   "    inline fun <reified T : Any> getApi(): T = getApi(T::class.java)",
   "",
   "    private object JavaTimeAdapter \x7b",
   "        @ToJson",
   "        fun offsetDateTimeToJson(value: OffsetDateTime): String = value.toString()",
   "",
   "        @FromJson",
   "        fun offsetDateTimeFromJson(value: String): OffsetDateTime = " ++
     "OffsetDateTime.parse(value)",
   "",
   "        @ToJson",
   "        fun localDateToJson(value: LocalDate): String = value.toString()",
   "",
   "        @FromJson",
   "        fun localDateFromJson(value: String): LocalDate = LocalDate.parse(value)",
   "    \x7d",
   "\x7d"]

/-- The lines of the holder. -/
def holderLines (title url : String) (style : CallStyle) : List String :=
  holderHead title url ++ holderFields
    ++ (if style = .observable then [observableAdapter] else []) ++ holderMembers

/-- The file of the holder. -/
def holderFile (options : Options) (d : Document) : SourceFile where
  package := options.packageName
  fileName := "ApiHolder"
  imports := .ofList (holderImports options.callStyle)
  declarations :=
    ["\n".intercalate (holderLines (Text.trim d.info.title) (baseUrl d) options.callStyle)]

end ClientGen.Kotlin
