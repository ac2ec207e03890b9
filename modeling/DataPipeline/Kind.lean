import DataPipeline.Codec.Choice

/-!
# Kinds of nodes

What a node of a workflow does: it starts or ends the run, reads or writes data, works on files,
talks to Salesforce, filters records, or waits for a time.

## Main definitions

* `Kind`: the kinds; `Kind.name` is the name in documents, `Kind.title` the one for readers
* `Kind.ofName`: the kind with a name
-/
namespace DataPipeline

inductive Kind where
  | start
  | finish
  | readFile
  | writeFile
  | copyFile
  | renameFile
  | deleteFile
  | inlineInput
  | inlineOutput
  | database
  | salesforceRead
  | salesforceWrite
  | filter
  | scheduler
  | code
deriving DecidableEq

namespace Kind

def all : List Kind :=
  [start, finish, readFile, writeFile, copyFile, renameFile, deleteFile, inlineInput, inlineOutput,
    database, salesforceRead, salesforceWrite, filter, scheduler, code]

def name : Kind → String
  | start => "start"
  | finish => "end"
  | readFile => "read-file"
  | writeFile => "write-file"
  | copyFile => "copy-file"
  | renameFile => "rename-file"
  | deleteFile => "delete-file"
  | inlineInput => "inline-input"
  | inlineOutput => "inline-output"
  | database => "database"
  | salesforceRead => "salesforce-cloud"
  | salesforceWrite => "write-salesforce"
  | filter => "filter"
  | scheduler => "scheduler"
  | code => "code"

/-- The label of a node that was never given one. -/
def title : Kind → String
  | start => "Start"
  | finish => "End"
  | readFile => "Read File"
  | writeFile => "Write File"
  | copyFile => "Copy File"
  | renameFile => "Rename File"
  | deleteFile => "Delete File"
  | inlineInput => "Inline Input"
  | inlineOutput => "Inline Output"
  | database => "Database"
  | salesforceRead => "Salesforce Read"
  | salesforceWrite => "Salesforce Write"
  | filter => "Filter"
  | scheduler => "Scheduler"
  | code => "Code"

def isTerminal (k : Kind) : Bool := k = start || k = finish

def ofName (name : String) : Option Kind := all.find? (·.name = name)

def codec : Codec Kind := Codec.choice (all.map fun k => (k.name, k)) name

end Kind

end DataPipeline
