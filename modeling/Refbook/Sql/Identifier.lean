namespace Refbook
namespace Sql

/-!
# Identifiers

An identifier is written bare when it is made of lower-case ASCII letters,
digits and underscores, does not start with a digit, and is not a reserved
word (in any case) of the relational dialect; otherwise it is put in double
quotes, with inner quotes doubled.
-/

/-- Words the dialect reserves. -/
def reservedWords : List String :=
  ["all", "analyse", "analyze", "and", "any", "array", "as", "asc", "asymmetric",
   "authorization", "binary", "both", "case", "cast", "check", "collate", "collation", "column",
   "concurrently", "constraint", "create", "cross", "current_catalog", "current_date",
   "current_role", "current_schema", "current_time", "current_timestamp", "current_user",
   "default", "deferrable", "desc", "distinct", "do", "else", "end", "except", "false", "fetch",
   "for", "foreign", "freeze", "from", "full", "grant", "group", "having", "ilike", "in",
   "initially", "inner", "intersect", "into", "is", "isnull", "join", "lateral", "leading", "left",
   "like", "limit", "localtime", "localtimestamp", "natural", "not", "notnull", "null", "offset",
   "on", "only", "or", "order", "outer", "overlaps", "placing", "primary", "references",
   "returning", "right", "select", "session_user", "similar", "some", "symmetric", "system_user",
   "table", "tablesample", "then", "to", "trailing", "true", "union", "unique", "user", "using",
   "variadic", "verbose", "when", "where", "window", "with",
   "abort", "action", "add", "after", "alter", "attach", "autoincrement", "before", "begin",
   "between", "by", "cascade", "commit", "conflict", "database", "deferred", "delete", "detach",
   "drop", "each", "escape", "exclusive", "exists", "explain", "fail", "glob", "if", "ignore",
   "immediate", "index", "indexed", "insert", "instead", "key", "match", "no", "nothing", "of",
   "plan", "pragma", "query", "raise", "recursive", "regexp", "reindex", "release", "rename",
   "replace", "restrict", "row", "rollback", "savepoint", "set", "temp", "temporary",
   "transaction", "trigger", "update", "vacuum", "values", "view", "virtual"]

/-- A reserved word, in any ASCII case. -/
def isReserved (word : String) : Bool :=
  reservedWords.contains (String.ofList (word.toList.map Char.toLower))

/-- The word cannot be written bare. -/
def needsQuoting (word : String) : Bool :=
  isReserved word ||
    (match word.toList with
      | [] => true
      | c :: _ => c.isDigit) ||
    !(word.toList.all fun c => c.isLower || c.isDigit || c = '_')

/-- An identifier as written in a statement. -/
def quoteIdentifier (word : String) : String :=
  if needsQuoting word then
    "\"" ++ String.join (word.toList.map fun c => if c = '"' then "\"\"" else c.toString) ++ "\""
  else word

end Sql
end Refbook
