import FunctionBindings.Binding.Catalog

/-!
# The standard bindings

The triggers, inputs and outputs of the standard extensions.
-/

namespace FunctionBindings.Catalog

/-- The spec of an attribute without parameters that take members of enumerations. -/
private def plainSpec (attributeName bindingType : String) (kind : BindingKind)
    (constructors : List (List String)) : BindingSpec :=
  ⟨attributeName, bindingType, kind, constructors, []⟩

/-- The specs of the standard extensions. -/
def builtinSpecs : List BindingSpec :=
  [⟨"HttpTrigger", "HttpTrigger", .trigger,
      [[], ["methods"], ["authLevel"], ["authLevel", "methods"]], ["authLevel"]⟩,
   plainSpec "QueueTrigger" "QueueTrigger" .trigger [["queueName"]],
   plainSpec "QueueOutput" "Queue" .output [["queueName"]],
   plainSpec "BlobTrigger" "BlobTrigger" .trigger [["path"]],
   plainSpec "BlobInput" "Blob" .input [["blobPath"]],
   plainSpec "BlobOutput" "Blob" .output [["blobPath"]],
   plainSpec "TimerTrigger" "TimerTrigger" .trigger [["schedule"]],
   plainSpec "ServiceBusTrigger" "ServiceBusTrigger" .trigger
     [["queueName"], ["topicName", "subscriptionName"]],
   ⟨"ServiceBusOutput", "ServiceBus", .output,
      [["queueOrTopicName"], ["queueOrTopicName", "entityType"]], ["entityType"]⟩,
   plainSpec "EventHubTrigger" "EventHubTrigger" .trigger [["eventHubName"]],
   plainSpec "EventHubOutput" "EventHub" .output [["eventHubName"]],
   plainSpec "CosmosDBTrigger" "CosmosDBTrigger" .trigger [["databaseName", "containerName"]],
   plainSpec "CosmosDBInput" "CosmosDB" .input [[], ["databaseName", "containerName"]],
   plainSpec "CosmosDBOutput" "CosmosDB" .output [["databaseName", "containerName"]],
   plainSpec "TableInput" "Table" .input
     [["tableName"], ["tableName", "partitionKey"], ["tableName", "partitionKey", "rowKey"]],
   plainSpec "TableOutput" "Table" .output
     [["tableName"], ["tableName", "partitionKey"], ["tableName", "partitionKey", "rowKey"]],
   plainSpec "EventGridTrigger" "EventGridTrigger" .trigger [[]],
   plainSpec "EventGridOutput" "EventGrid" .output [[]]]

/-- The catalog of the standard extensions. -/
def builtin : Catalog :=
  builtinSpecs.foldl register empty

/-- The standard catalog with the attribute types that a program declares. -/
def forProgram (program : Program) : Catalog :=
  program.attributeTypes.foldl declare builtin

end FunctionBindings.Catalog
