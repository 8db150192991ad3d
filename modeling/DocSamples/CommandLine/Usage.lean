import DocSamples.CommandLine.Arguments

namespace DocSamples.CommandLine

def usage : Text :=
  "usage: scaf-docs [-h] [--snippet SNIPPET]
                 [--strategy \x7bidentity,scope-wrap,test-wrap\x7d]
                 [--config CONFIG] [--tool TOOL] [--timeout TIMEOUT] [--json]
                 [-v]
                 [paths ...]
"

def help : Text :=
  usage ++ "
Validate scaf code blocks in Markdown/MDX documentation

positional arguments:
  paths                 Files or directories to scan (default: configured
                        docs_dir)

options:
  -h, --help            show this help message and exit
  --snippet SNIPPET     Validate a single snippet file, or \"-\" to read from
                        stdin
  --strategy \x7bidentity,scope-wrap,test-wrap\x7d
                        With --snippet: check using only this wrap strategy
  --config CONFIG       Config file (default: configs/scaf_docs.yaml)
  --tool TOOL           scaf executable to run
  --timeout TIMEOUT     Per-check timeout in seconds
  --json                Print a JSON report
  -v, --verbose         Show per-document progress and debug logs

Set SCAF_BIN to use a scaf binary that is not on PATH.
"

def UsageError.report (e : UsageError) : Text :=
  usage ++ "scaf-docs: error: " ++ e.message ++ "\n"

end DocSamples.CommandLine
