/-!
# The documented configuration file

The text of a configuration file in which every setting stands with its default and a comment.
-/

namespace CodeAudit

/-- The text of a documented configuration file. -/
def Config.documented : String :=
  "# codewarden configuration file

# File extensions to include (empty list = every file)
file_extensions = [
    \"java\", \"kt\", \"scala\", \"groovy\", \"py\", \"js\", \"jsx\", \"ts\", \"tsx\", \"go\", \"rs\",
    \"cs\", \"php\", \"rb\", \"c\", \"cpp\", \"h\", \"jsp\", \"xml\", \"properties\", \"yaml\", \"yml\",
    \"json\", \"toml\", \"html\", \"sql\", \"sh\"
]

# Directory names to skip on top of the built-in list
# (node_modules, .git, target, build, dist, __pycache__, .venv, venv, .gradle, .idea, vendor, .mvn)
extra_excluded_dirs = []

# Maximum file size to analyze (in bytes, default 1MB)
max_file_size = 1048576

# Where reports are written
output_dir = \"./reports\"

[llm]
# API key (or set CODEWARDEN_API_KEY / OPENAI_API_KEY)
# api_key = \"your-api-key-here\"

# Any OpenAI-compatible endpoint (override with CODEWARDEN_BASE_URL)
base_url = \"https://api.openai.com/v1\"

# Model to use (override with CODEWARDEN_MODEL)
model = \"gpt-4o-mini\"

max_tokens = 4000
temperature = 0.1

# Request timeout in seconds
timeout_seconds = 60

# Characters of each file sent with a security review
max_file_chars = 12000

[scanner]
# Run OWASP Dependency-Check during \x60scan\x60
enabled = true

# auto | maven | cli | docker
strategy = \"auto\"

# Subprocess timeout in seconds
timeout_seconds = 600

# NVD API key speeds up database updates (or set NVD_API_KEY)
# nvd_api_key = \"\"

[packager]
# External packager; a built-in one is used when it fails
command = \"repomix\"
timeout_seconds = 120

# Maximum characters of packaged code sent to the LLM
max_context_chars = 60000
"

end CodeAudit
