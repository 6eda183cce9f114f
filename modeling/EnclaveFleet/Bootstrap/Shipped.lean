/-!
# The bootstrap script that comes with the fleet

It is what a host runs at its first boot when no other script is configured, and it reads the
variables that `Bootstrap.exports` sets.

* `Bootstrap.shippedScript`: its bytes
-/
namespace EnclaveFleet.Bootstrap
set_option autoImplicit false

def shippedLines : List String := [
  "#!/bin/bash",
  "# First-boot setup for a TEE fleet host.",
  "#",
  "# Expects these variables, exported by the user data:",
  "#   SECRET_ARN    Secrets Manager secret holding the host configuration",
  "#   AWS_REGION    region of the secret",
  "#   REPO_URL      repository to clone",
  "#   REPO_DIR      directory created by the clone",
  "#   REPO_REF      branch or tag to check out (empty for the default branch)",
  "#   SECRET_KEYS   space separated JSON keys copied from the secret into .env",
  "#   INSTALL_ARGS  extra arguments for install-host.sh",
  "set -euo pipefail",
  "",
  "HOST_USER=ec2-user",
  "export HOME=/home/$HOST_USER",
  "",
  "dnf install git aws-cli jq -y",
  "",
  "cd \"$HOME\"",
  "if [ ! -d \"$REPO_DIR\" ]; then",
  "    sudo -u \"$HOST_USER\" git clone \"$REPO_URL\" \"$REPO_DIR\"",
  "fi",
  "cd \"$REPO_DIR\"",
  "if [ -n \"$REPO_REF\" ]; then",
  "    sudo -u \"$HOST_USER\" git checkout \"$REPO_REF\"",
  "fi",
  "",
  "SECRET_JSON=$(aws secretsmanager get-secret-value \\",
  "    --secret-id \"$SECRET_ARN\" \\",
  "    --region \"$AWS_REGION\" \\",
  "    --query SecretString \\",
  "    --output text)",
  "",
  ": > .env",
  "for key in $SECRET_KEYS; do",
  "    name=$(echo \"$key\" | tr '[:lower:]' '[:upper:]')",
  "    value=$(echo \"$SECRET_JSON\" | jq -r --arg k \"$key\" '.[$k]')",
  "    if [ \"$value\" = \"null\" ]; then",
  "        echo \"secret is missing key $key\" >&2",
  "        exit 1",
  "    fi",
  "    echo \"$name=$value\" >> .env",
  "done",
  "chown \"$HOST_USER:$HOST_USER\" .env",
  "chmod 600 .env",
  "",
  "# shellcheck disable=SC2086",
  "sudo -u \"$HOST_USER\" HOME=\"$HOME\" ./scripts/install-host.sh $INSTALL_ARGS"
]

def shippedScript : List UInt8 :=
  (String.join (shippedLines.map (· ++ "\n"))).toUTF8.toList

end EnclaveFleet.Bootstrap
