import EnclaveFleet.Text.Split

/-!
# Shells that have words completed

* `Completion`: what a word can be completed to
* `Dialect`: the shells that ask for completions
* `Dialect.line`: how a completion is handed to the shell
* `Dialect.script`: the commands by which the shell learns to ask
-/
namespace EnclaveFleet.Console
set_option autoImplicit false

structure Completion where
  value : String
  about? : Option String := none
deriving DecidableEq

inductive Dialect where
  | bash
  | zsh
  | fish
  | powershell
deriving DecidableEq

namespace Dialect

def all : List Dialect := [.bash, .zsh, .fish, .powershell]

def name : Dialect → String
  | .bash => "bash"
  | .zsh => "zsh"
  | .fish => "fish"
  | .powershell => "powershell"

def ofName? (s : String) : Option Dialect := all.find? (·.name = s)

/-- Every completion is a plain word and stands for itself. -/
def line (d : Dialect) (c : Completion) : String :=
  match d, c.about? with
  | .bash, _ | .fish, none => "plain," ++ c.value
  | .fish, some about => "plain," ++ c.value ++ "\t" ++ about
  | .zsh, about? | .powershell, about? => "plain\n" ++ c.value ++ "\n" ++ about?.getD "_"

/-! ## Scripts -/

/-- The names that a script is made of. -/
structure Names where
  program : String
  /-- The variable that asks for completions. -/
  trigger : String
  /-- The function that the shell calls. -/
  function : String

def bashScript (n : Names) : List String := [
  n.function ++ "() \x7b",
  "    local IFS=$'\\n'",
  "    local response",
  "",
  "    response=$(env COMP_WORDS=\"$\x7bCOMP_WORDS[*]\x7d\" COMP_CWORD=$COMP_CWORD " ++ n.trigger ++
    "=bash_complete $1)",
  "",
  "    for completion in $response; do",
  "        IFS=',' read type value <<< \"$completion\"",
  "",
  "        if [[ $type == 'dir' ]]; then",
  "            COMPREPLY=()",
  "            compopt -o dirnames",
  "        elif [[ $type == 'file' ]]; then",
  "            COMPREPLY=()",
  "            compopt -o default",
  "        elif [[ $type == 'plain' ]]; then",
  "            COMPREPLY+=($value)",
  "        fi",
  "    done",
  "",
  "    return 0",
  "\x7d",
  "",
  n.function ++ "_setup() \x7b",
  "    complete -o nosort -F " ++ n.function ++ " " ++ n.program,
  "\x7d",
  "",
  n.function ++ "_setup;"]

def zshScript (n : Names) : List String := [
  "#compdef " ++ n.program,
  "",
  n.function ++ "() \x7b",
  "    local -a completions",
  "    local -a completions_with_descriptions",
  "    local -a response",
  "    (( ! $+commands[" ++ n.program ++ "] )) && return 1",
  "",
  "    response=(\"$\x7b(@f)$(env COMP_WORDS=\"$\x7bwords[*]\x7d\" COMP_CWORD=$((CURRENT-1)) " ++
    n.trigger ++ "=zsh_complete " ++ n.program ++ ")\x7d\")",
  "",
  "    for type key descr in $\x7bresponse\x7d; do",
  "        if [[ \"$type\" == \"plain\" ]]; then",
  "            if [[ \"$descr\" == \"_\" ]]; then",
  "                completions+=(\"$key\")",
  "            else",
  "                completions_with_descriptions+=(\"$key\":\"$descr\")",
  "            fi",
  "        elif [[ \"$type\" == \"dir\" ]]; then",
  "            _path_files -/",
  "        elif [[ \"$type\" == \"file\" ]]; then",
  "            _path_files -f",
  "        fi",
  "    done",
  "",
  "    if [ -n \"$completions_with_descriptions\" ]; then",
  "        _describe -V unsorted completions_with_descriptions -U",
  "    fi",
  "",
  "    if [ -n \"$completions\" ]; then",
  "        compadd -U -V unsorted -a completions",
  "    fi",
  "\x7d",
  "",
  "if [[ $zsh_eval_context[-1] == loadautofunc ]]; then",
  "    # autoload from fpath, call function directly",
  "    " ++ n.function ++ " \"$@\"",
  "else",
  "    # eval/source/. command, register function for later",
  "    compdef " ++ n.function ++ " " ++ n.program,
  "fi"]

def fishScript (n : Names) : List String := [
  "function " ++ n.function ++ ";",
  "    set -l response (env " ++ n.trigger ++ "=fish_complete COMP_WORDS=(commandline -cp) " ++
    "COMP_CWORD=(commandline -t) " ++ n.program ++ ");",
  "",
  "    for completion in $response;",
  "        set -l metadata (string split \",\" $completion);",
  "",
  "        if test $metadata[1] = \"dir\";",
  "            __fish_complete_directories $metadata[2];",
  "        else if test $metadata[1] = \"file\";",
  "            __fish_complete_path $metadata[2];",
  "        else if test $metadata[1] = \"plain\";",
  "            echo $metadata[2];",
  "        end;",
  "    end;",
  "end;",
  "",
  "complete --no-files --command " ++ n.program ++ " --arguments \"(" ++ n.function ++ ")\";"]

def powershellScript (n : Names) : List String := [
  "Register-ArgumentCompleter -Native -CommandName " ++ n.program ++ " -ScriptBlock \x7b",
  "    param($wordToComplete, $commandAst, $cursorPosition)",
  "",
  "    $prev_complete = $env:" ++ n.trigger,
  "    $prev_words = $env:COMP_WORDS",
  "    $prev_cword = $env:COMP_CWORD",
  "",
  "    $env:" ++ n.trigger ++ " = 'powershell_complete'",
  "    $env:COMP_WORDS = $commandAst.ToString()",
  "    if ($wordToComplete) \x7b",
  "        $env:COMP_CWORD = $commandAst.CommandElements.Count - 1",
  "    \x7d else \x7b",
  "        $env:COMP_CWORD = $commandAst.CommandElements.Count",
  "    \x7d",
  "",
  "    try \x7b",
  "        $response = & " ++ n.program ++ " 2>$null",
  "    \x7d finally \x7b",
  "        $env:" ++ n.trigger ++ " = $prev_complete",
  "        $env:COMP_WORDS = $prev_words",
  "        $env:COMP_CWORD = $prev_cword",
  "    \x7d",
  "",
  "    if (-not $response) \x7b return \x7d",
  "",
  "    $prefix = \"$wordToComplete*\"",
  "    $lines = $response -split \"\x60n\"",
  "    for ($i = 0; $i + 2 -lt $lines.Count; $i += 3) \x7b",
  "        $type = $lines[$i]",
  "        $value = $lines[$i + 1]",
  "        $descr = $lines[$i + 2]",
  "        if (-not $type) \x7b continue \x7d",
  "",
  "        if ($type -eq 'plain') \x7b",
  "            $tip = if ($descr -and $descr -ne '_') \x7b $descr \x7d else \x7b $value \x7d",
  "            [System.Management.Automation.CompletionResult]::new(",
  "                $value, $value, 'ParameterValue', $tip)",
  "        \x7d elseif ($type -eq 'dir') \x7b",
  "            Get-ChildItem -Directory -Path $prefix -ErrorAction SilentlyContinue |",
  "                ForEach-Object \x7b",
  "                    [System.Management.Automation.CompletionResult]::new(",
  "                        $_.FullName, $_.Name, 'ProviderContainer', $_.FullName)",
  "                \x7d",
  "        \x7d elseif ($type -eq 'file') \x7b",
  "            Get-ChildItem -Path $prefix -ErrorAction SilentlyContinue |",
  "                ForEach-Object \x7b",
  "                    $kind = 'ProviderItem'",
  "                    if ($_.PSIsContainer) \x7b $kind = 'ProviderContainer' \x7d",
  "                    [System.Management.Automation.CompletionResult]::new(",
  "                        $_.FullName, $_.Name, $kind, $_.FullName)",
  "                \x7d",
  "        \x7d",
  "    \x7d",
  "\x7d"]

def script (d : Dialect) (n : Names) : List String :=
  match d with
  | .bash => bashScript n
  | .zsh => zshScript n
  | .fish => fishScript n
  | .powershell => powershellScript n

end Dialect
end EnclaveFleet.Console
