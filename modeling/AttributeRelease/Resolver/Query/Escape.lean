/-!
# Values in queries

A value that becomes part of a query is escaped, so that it cannot be taken for a part of the
query's form.
-/

namespace AttributeRelease.Resolver.Query

/-- A character inside an LDAP filter: those that have a meaning there become a backslash and two
hexadecimal digits. -/
def escapeLdapChar (c : Char) : List Char :=
  if c = '\\' then ['\\', '5', 'c']
  else if c = '*' then ['\\', '2', 'a']
  else if c = '(' then ['\\', '2', '8']
  else if c = ')' then ['\\', '2', '9']
  else if c = '\x00' then ['\\', '0', '0']
  else [c]

/-- A character inside an SQL literal: quotes are doubled. -/
def escapeSqlChar (c : Char) : List Char := if c = '\'' then ['\'', '\''] else [c]

/-- A value inside an LDAP filter. -/
def escapeLdap (value : String) : String := String.ofList (value.toList.flatMap escapeLdapChar)

/-- A value inside an SQL literal. -/
def escapeSql (value : String) : String := String.ofList (value.toList.flatMap escapeSqlChar)

end AttributeRelease.Resolver.Query
