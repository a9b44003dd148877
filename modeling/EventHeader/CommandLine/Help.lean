import EventHeader.CommandLine.Options
import EventHeader.Text.Line

/- The commands that take options: what they accept, and the texts that say so. -/
namespace EventHeader.CommandLine

/-- A command with options. -/
structure Manual where
  grammar : Grammar
  /-- The name of the program with the command. -/
  program : String
  /-- The lines that show how the command is called. -/
  usage : List String
  /-- The lines that explain the command, below the usage. -/
  explanation : List String

namespace Manual

/-- The option that every command has. -/
def helpOption : OptionSpec := ⟨["-h", "--help"], .help⟩

def libraryOption : OptionSpec := ⟨["--library-name", "-l"], .value⟩

def packageOption : OptionSpec := ⟨["--package-name", "-p"], .value⟩

def nonnullOption : OptionSpec := ⟨["--assume-nonnull"], .flag⟩

def strictOption : OptionSpec := ⟨["--strict-names"], .flag⟩

def outputOption : OptionSpec := ⟨["--output-dir", "-o"], .value⟩

def checkOption : OptionSpec := ⟨["--check"], .flag⟩

def categoryOption : OptionSpec := ⟨["--category", "-c"], .value⟩

def generate : Manual where
  grammar := ⟨[helpOption, libraryOption, packageOption, nonnullOption, strictOption,
    outputOption, checkOption], some "schema"⟩
  program := "python . generate"
  usage := [
    "usage: python . generate [-h] [--library-name LIBRARY_NAME]",
    "                         [--package-name PACKAGE_NAME] [--assume-nonnull]",
    "                         [--strict-names] [--output-dir OUTPUT_DIR] [--check]",
    "                         schema"]
  explanation := [
    "Generate EventEmitters.h from a component schema",
    "",
    "positional arguments:",
    "  schema                Path to the JSON component schema",
    "",
    "options:",
    "  -h, --help            show this help message and exit",
    "  --library-name LIBRARY_NAME, -l LIBRARY_NAME",
    "                        Library identifier (default: CODEGEN_LIBRARY_NAME or",
    "                        schema file stem)",
    "  --package-name PACKAGE_NAME, -p PACKAGE_NAME",
    "                        Optional package identifier",
    "  --assume-nonnull      Treat primitive fields as non-nullable",
    "  --strict-names        Fail when two declarations resolve to the same name",
    "  --output-dir OUTPUT_DIR, -o OUTPUT_DIR",
    "                        Output directory (default: CODEGEN_OUTPUT_DIR or",
    "                        ./generated)",
    "  --check               Only verify that generated files on disk are up to",
    "                        date"]

def describe : Manual where
  grammar := ⟨[helpOption], some "schema"⟩
  program := "python . describe"
  usage := ["usage: python . describe [-h] schema"]
  explanation := [
    "Print the components, events and payloads of a schema",
    "",
    "positional arguments:",
    "  schema      Path to the JSON component schema",
    "",
    "options:",
    "  -h, --help  show this help message and exit"]

def env : Manual where
  grammar := ⟨[helpOption, categoryOption], none⟩
  program := "python . env"
  usage := ["usage: python . env [-h] [--category CATEGORY]"]
  explanation := [
    "Show configuration variables and their resolved values",
    "",
    "options:",
    "  -h, --help            show this help message and exit",
    "  --category CATEGORY, -c CATEGORY",
    "                        Only show one category (generation, output, logging)"]

/-- The text that shows how a command is called. -/
def usageText (m : Manual) : String := Text.unlines m.usage ++ "\n"

def helpText (m : Manual) : String :=
  Text.unlines (m.usage ++ "" :: m.explanation) ++ "\n"

/-- What is said about arguments that a command refuses. -/
def refusal (m : Manual) (e : UsageError) : String :=
  m.usageText ++ m.program ++ ": error: " ++ e.message ++ "\n"

end Manual

def overview : String :=
  Text.unlines [
    "Usage: python . \x7bcommand\x7d [args]",
    "",
    "=== Generation ===",
    "  generate   Generate EventEmitters.h from a component schema",
    "  describe   Print the components and events of a schema",
    "",
    "=== Configuration ===",
    "  env        Show configuration variables",
    "",
    "=== Development ===",
    "  test       Run the test suite",
    "",
    "Examples:",
    "  python . generate schema.json -l MyLibrary -o build/generated",
    "  python . generate schema.json --check",
    "  python . describe schema.json",
    "  python . test --unit",
    ""]

end EventHeader.CommandLine
