/-!
# Help texts

What the command line says about itself.
-/

namespace SourceFacts.CommandLine

/-- The help on the program. -/
def programHelp : List String :=
  ["Usage: cli [OPTIONS] COMMAND [ARGS]...",
   "",
   "  archscan - architectural fact extraction for Python codebases.",
   "",
   "  Recovers symbols, call graphs, HTTP endpoints, outbound HTTP client calls,",
   "  protocols and tests from source without importing it.",
   "",
   "  Examples:     archscan analyze ./src     archscan analyze ./src --output",
   "  report.json     archscan analyze ./src --parquet-dir ./facts     archscan",
   "  endpoints ./service",
   "",
   "Options:",
   "  --version      Show the version and exit.",
   "  -v, --verbose  Enable debug logging",
   "  --help         Show this message and exit.",
   "",
   "Commands:",
   "  analyze    Analyze a Python file or directory and report architectural...",
   "  endpoints  List HTTP endpoints, router mounts and outbound client calls."]

/-- The help on the command `analyze`. -/
def analyzeHelp : List String :=
  ["Usage: cli analyze [OPTIONS] PATH",
   "",
   "  Analyze a Python file or directory and report architectural facts.",
   "",
   "  PATH: File or directory containing Python code to analyze",
   "",
   "Options:",
   "  -o, --output FILE        Write the JSON report to this file ('-' for stdout)",
   "  --parquet-dir DIRECTORY  Also write one Parquet table per fact kind to this",
   "                           directory",
   "  --exclude TEXT           Patterns to exclude (can be specified multiple",
   "                           times)",
   "  --include TEXT           Override default exclusions (e.g., --include build)",
   "  -w, --workers INTEGER    Number of worker threads (default: auto-detect CPU",
   "                           count)",
   "  --client-lib TEXT        Additional HTTP client library to recognize (can be",
   "                           specified multiple times)",
   "  --help                   Show this message and exit."]

/-- The help on the command `endpoints`. -/
def endpointsHelp : List String :=
  ["Usage: cli endpoints [OPTIONS] PATH",
   "",
   "  List HTTP endpoints, router mounts and outbound client calls.",
   "",
   "  PATH: File or directory containing Python code to analyze",
   "",
   "Options:",
   "  -w, --workers INTEGER  Number of worker threads (default: auto-detect CPU",
   "                         count)",
   "  --help                 Show this message and exit."]

end SourceFacts.CommandLine
