import Linkage.Error
import Linkage.Text.Blank

/-! Starter configurations, which a new project begins with. -/

namespace Linkage.Starter

def coreLines : List String := [
  "# muzzle starter: AWS Lambda core instrumentation",
  "#",
  "# Verifies that handler instrumentation links against every release of",
  "# aws-lambda-java-core from 1.0.0 on. Run `muzzle matrix` to check the",
  "# whole range, or `muzzle verify --set <group:module=version>` for one build.",
  "",
  "name: aws-lambda-core",
  "",
  "settings:",
  "  default_output: normal  # verbose | normal | quiet | silent",
  "",
  "instrumentation:",
  "  helper_prefixes:",
  "    - com.fasterxml.jackson.",
  "    - io.opentelemetry.contrib.awsxray.",
  "    - org.w3c.dom.",
  "  exclusions:",
  "    - com.fasterxml.jackson.core:jackson-databind",
  "  references:",
  "    - com.amazonaws.services.lambda.runtime.Context",
  "    - \"com.amazonaws.services.lambda.runtime.Context#getAwsRequestId()\"",
  "    - \"com.amazonaws.services.lambda.runtime.Context#getFunctionName()\"",
  "    - \"com.amazonaws.services.lambda.runtime.Context#getInvokedFunctionArn()\"",
  "    - com.amazonaws.services.lambda.runtime.RequestHandler",
  "    - com.amazonaws.services.lambda.runtime.RequestStreamHandler",
  "    - com.amazonaws.services.lambda.runtime.events.APIGatewayProxyRequestEvent",
  "    - com.amazonaws.serverless.proxy.model.AwsProxyRequest",
  "    - com.fasterxml.jackson.databind.ObjectMapper",
  "",
  "rules:",
  "  - name: core",
  "    group: com.amazonaws",
  "    module: aws-lambda-java-core",
  "    versions: \"[1.0.0,)\"",
  "    extra_dependencies:",
  "      - com.amazonaws:aws-lambda-java-events:3.3.1",
  "      - com.amazonaws.serverless:aws-serverless-java-container-core:1.5.2",
  "",
  "catalog:",
  "  - artifact: com.amazonaws:aws-lambda-java-core",
  "    releases: [\"1.0.0\", \"1.1.0\", \"1.2.0\", \"1.2.1\", \"1.2.2\", \"1.2.3\"]",
  "    symbols:",
  "      - symbol: com.amazonaws.services.lambda.runtime.Context",
  "      - symbol: \"com.amazonaws.services.lambda.runtime.Context#getAwsRequestId()\"",
  "      - symbol: \"com.amazonaws.services.lambda.runtime.Context#getFunctionName()\"",
  "      - symbol: \"com.amazonaws.services.lambda.runtime.Context#getInvokedFunctionArn()\"",
  "      - symbol: com.amazonaws.services.lambda.runtime.RequestHandler",
  "      - symbol: com.amazonaws.services.lambda.runtime.RequestStreamHandler",
  "",
  "  - artifact: com.amazonaws:aws-lambda-java-events",
  "    releases: [\"2.2.9\", \"3.0.0\", \"3.3.1\", \"3.11.0\", \"3.11.4\"]",
  "    symbols:",
  "      - symbol: com.amazonaws.services.lambda.runtime.events.APIGatewayProxyRequestEvent",
  "      - symbol: com.amazonaws.services.lambda.runtime.events.SQSEvent",
  "      - symbol: \"com.amazonaws.services.lambda.runtime.events.SQSEvent#getRecords()\"",
  "      - symbol: com.amazonaws.services.lambda.runtime.events.APIGatewayV2HTTPEvent",
  "        since: \"3.2.0\"",
  "",
  "  - artifact: com.amazonaws.serverless:aws-serverless-java-container-core",
  "    releases: [\"1.5.2\", \"1.6.0\", \"1.9.3\"]",
  "    dependencies:",
  "      - com.amazonaws:aws-lambda-java-core:1.2.1",
  "      - com.fasterxml.jackson.core:jackson-databind:2.12.3",
  "    symbols:",
  "      - symbol: com.amazonaws.serverless.proxy.model.AwsProxyRequest",
  "      - symbol: com.amazonaws.serverless.proxy.model.HttpApiV2ProxyRequest",
  "        since: \"1.6.0\"",
  "",
  "  - artifact: com.fasterxml.jackson.core:jackson-databind",
  "    releases: [\"2.12.3\"]",
  "    symbols:",
  "      - symbol: com.fasterxml.jackson.databind.ObjectMapper",
  "",
  "resolved:",
  "  com.amazonaws:aws-lambda-java-core: \"1.2.1\""]

def eventsLines : List String := [
  "# muzzle starter: AWS Lambda events instrumentation",
  "#",
  "# Verifies the SQS and HTTP API event instrumentation against",
  "# aws-lambda-java-events 3.3.1 and later. Releases before 3.3.1 are",
  "# expected to fail to link (assert_inverse).",
  "",
  "name: aws-lambda-events",
  "",
  "settings:",
  "  default_output: normal  # verbose | normal | quiet | silent",
  "",
  "instrumentation:",
  "  helper_prefixes:",
  "    - com.fasterxml.jackson.",
  "    - io.opentelemetry.contrib.awsxray.",
  "    - org.w3c.dom.",
  "  class_loader_matcher:",
  "    - com.amazonaws.services.lambda.runtime.events.SQSEvent",
  "  exclusions:",
  "    - com.fasterxml.jackson.core:jackson-databind",
  "  references:",
  "    - com.amazonaws.services.lambda.runtime.Context",
  "    - \"com.amazonaws.services.lambda.runtime.Context#getAwsRequestId()\"",
  "    - com.amazonaws.services.lambda.runtime.events.SQSEvent",
  "    - \"com.amazonaws.services.lambda.runtime.events.SQSEvent#getRecords()\"",
  "    - com.amazonaws.services.lambda.runtime.events.APIGatewayV2HTTPEvent",
  "    - com.amazonaws.serverless.proxy.model.AwsProxyRequest",
  "",
  "rules:",
  "  - name: events",
  "    group: com.amazonaws",
  "    module: aws-lambda-java-events",
  "    versions: \"[3.3.1,)\"",
  "    extra_dependencies:",
  "      - com.amazonaws.serverless:aws-serverless-java-container-core:1.5.2",
  "    assert_inverse: true",
  "",
  "catalog:",
  "  - artifact: com.amazonaws:aws-lambda-java-core",
  "    releases: [\"1.0.0\", \"1.1.0\", \"1.2.0\", \"1.2.1\", \"1.2.2\", \"1.2.3\"]",
  "    symbols:",
  "      - symbol: com.amazonaws.services.lambda.runtime.Context",
  "      - symbol: \"com.amazonaws.services.lambda.runtime.Context#getAwsRequestId()\"",
  "      - symbol: com.amazonaws.services.lambda.runtime.RequestHandler",
  "",
  "  - artifact: com.amazonaws:aws-lambda-java-events",
  "    releases: [\"2.2.9\", \"3.0.0\", \"3.3.1\", \"3.11.0\", \"3.11.4\"]",
  "    symbols:",
  "      - symbol: com.amazonaws.services.lambda.runtime.events.SQSEvent",
  "      - symbol: \"com.amazonaws.services.lambda.runtime.events.SQSEvent#getRecords()\"",
  "      - symbol: com.amazonaws.services.lambda.runtime.events.APIGatewayV2HTTPEvent",
  "        since: \"3.2.0\"",
  "",
  "  - artifact: com.amazonaws.serverless:aws-serverless-java-container-core",
  "    releases: [\"1.5.2\", \"1.6.0\", \"1.9.3\"]",
  "    dependencies:",
  "      - com.amazonaws:aws-lambda-java-core:1.2.1",
  "      - com.fasterxml.jackson.core:jackson-databind:2.12.3",
  "    symbols:",
  "      - symbol: com.amazonaws.serverless.proxy.model.AwsProxyRequest",
  "      - symbol: com.amazonaws.serverless.proxy.model.HttpApiV2ProxyRequest",
  "        since: \"1.6.0\"",
  "",
  "  - artifact: com.fasterxml.jackson.core:jackson-databind",
  "    releases: [\"2.12.3\"]",
  "    symbols:",
  "      - symbol: com.fasterxml.jackson.databind.ObjectMapper",
  "",
  "resolved:",
  "  com.amazonaws:aws-lambda-java-events: \"3.11.0\""]

/-- All starters by name, in the order of their names. -/
def all : List (String × List String) :=
  [("aws-lambda-core", coreLines), ("aws-lambda-events", eventsLines)]

def names : List String :=
  all.map (·.1)

/-- The starter that is meant when none is named. -/
def defaultName : String := "aws-lambda-core"

def text (name : String) : Except Error String :=
  match all.lookup name with
  | some lines => return String.join (lines.map (· ++ "\n"))
  | none => throw (.configInvalid ("Unknown template '" ++ name ++ "'. Available: " ++ Text.join ", " names))

end Linkage.Starter
