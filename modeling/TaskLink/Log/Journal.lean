/-!
# Journals

A component writes the notable events of its life into a journal: sockets
bound, connected and replaced, and exchanges that failed.
-/

namespace TaskLink

inductive LogLevel where
  | info
  | error
  deriving DecidableEq

structure LogEntry where
  level : LogLevel
  text : String
  deriving DecidableEq

structure Journal where
  entries : List LogEntry := []
  deriving DecidableEq

namespace Journal

def info (journal : Journal) (text : String) : Journal :=
  ⟨journal.entries ++ [⟨.info, text⟩]⟩

def error (journal : Journal) (text : String) : Journal :=
  ⟨journal.entries ++ [⟨.error, text⟩]⟩

def occursIn (needle : List Char) : List Char → Bool
  | [] => needle.isEmpty
  | c :: rest => needle.isPrefixOf (c :: rest) || occursIn needle rest

def countContaining (journal : Journal) (needle : String) : Nat :=
  journal.entries.countP fun entry => occursIn needle.toList entry.text.toList

end Journal

end TaskLink
