import DocumentLink.ServerApi

/-!
# Prepared Commands

A command as it goes to a server: with the database it is meant for and the
declaration of the interface.

## Main definitions

* `Command.databaseKey`: The key of the database.
* `Command.prepare`: Add the database and the declaration to a command.
-/

namespace DocumentLink

namespace Command

/-- The database that handshakes and status probes go to. -/
def adminDatabase : String := "admin"

/-- The key under which a command names its database. -/
def databaseKey : String := "$db"

/-- Add the database and the declared interface to a command. -/
def prepare (command : Document) (database : String) (api : Option ServerApi) : Document :=
  let addressed := command.insert databaseKey (.string database)
  api.elim addressed fun api => api.appendTo addressed

end Command

end DocumentLink
