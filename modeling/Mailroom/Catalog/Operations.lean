import Mailroom.Call.Operation

/-!
# The operations of the server

Every request that the server answers, group by group, under the name it has in the description of
the server's interface.
-/

namespace Mailroom.Catalog

/-- Mailing lists. -/
def lists : List Operation := [
  ⟨"getLists", .get, "/lists"⟩,
  ⟨"createList", .post, "/lists"⟩,
  ⟨"getListById", .get, "/lists/\x7bid\x7d"⟩,
  ⟨"updateListById", .put, "/lists/\x7bid\x7d"⟩,
  ⟨"deleteListById", .delete, "/lists/\x7bid\x7d"⟩]

/-- Subscribers, alone and in bulk. -/
def subscribers : List Operation := [
  ⟨"getSubscribers", .get, "/subscribers"⟩,
  ⟨"createSubscriber", .post, "/subscribers"⟩,
  ⟨"getSubscriberById", .get, "/subscribers/\x7bid\x7d"⟩,
  ⟨"updateSubscriberById", .put, "/subscribers/\x7bid\x7d"⟩,
  ⟨"deleteSubscriberById", .delete, "/subscribers/\x7bid\x7d"⟩,
  ⟨"deleteSubscribers", .delete, "/subscribers"⟩,
  ⟨"deleteSubscribersByQuery", .post, "/subscribers/query/delete"⟩,
  ⟨"manageSubscriberLists", .put, "/subscribers/lists"⟩,
  ⟨"manageSubscriberListsByQuery", .put, "/subscribers/query/lists"⟩,
  ⟨"blocklistSubscribers", .put, "/subscribers/blocklist"⟩,
  ⟨"blocklistSubscriberById", .put, "/subscribers/\x7bid\x7d/blocklist"⟩,
  ⟨"blocklistSubscribersByQuery", .put, "/subscribers/query/blocklist"⟩,
  ⟨"exportSubscriberDataById", .get, "/subscribers/\x7bid\x7d/export"⟩,
  ⟨"subscriberSendOptinById", .post, "/subscribers/\x7bid\x7d/optin"⟩,
  ⟨"getSubscriberBouncesById", .get, "/subscribers/\x7bid\x7d/bounces"⟩,
  ⟨"deleteSubscriberBouncesById", .delete, "/subscribers/\x7bid\x7d/bounces"⟩]

/-- Campaigns, their renderings and their figures. -/
def campaigns : List Operation := [
  ⟨"getCampaigns", .get, "/campaigns"⟩,
  ⟨"createCampaign", .post, "/campaigns"⟩,
  ⟨"getCampaignById", .get, "/campaigns/\x7bid\x7d"⟩,
  ⟨"updateCampaignById", .put, "/campaigns/\x7bid\x7d"⟩,
  ⟨"deleteCampaignById", .delete, "/campaigns/\x7bid\x7d"⟩,
  ⟨"getCampaignPreviewById", .get, "/campaigns/\x7bid\x7d/preview"⟩,
  ⟨"previewCampaignById", .post, "/campaigns/\x7bid\x7d/preview"⟩,
  ⟨"previewCampaignTextById", .post, "/campaigns/\x7bid\x7d/text"⟩,
  ⟨"updateCampaignStatusById", .put, "/campaigns/\x7bid\x7d/status"⟩,
  ⟨"updateCampaignArchiveById", .put, "/campaigns/\x7bid\x7d/archive"⟩,
  ⟨"updateCampaignContentById", .put, "/campaigns/\x7bid\x7d/content"⟩,
  ⟨"testCampaignById", .post, "/campaigns/\x7bid\x7d/test"⟩,
  ⟨"getRunningCampaignStats", .get, "/campaigns/running/stats"⟩,
  ⟨"getCampaignAnalytics", .get, "/campaigns/analytics/\x7btype\x7d"⟩]

/-- Templates. -/
def templates : List Operation := [
  ⟨"getTemplates", .get, "/templates"⟩,
  ⟨"createTemplate", .post, "/templates"⟩,
  ⟨"getTemplateById", .get, "/templates/\x7bid\x7d"⟩,
  ⟨"updateTemplateById", .put, "/templates/\x7bid\x7d"⟩,
  ⟨"deleteTemplateById", .delete, "/templates/\x7bid\x7d"⟩,
  ⟨"updateTemplateDefaultById", .put, "/templates/\x7bid\x7d/default"⟩,
  ⟨"getTemplatePreviewById", .get, "/templates/\x7bid\x7d/preview"⟩,
  ⟨"previewTemplate", .post, "/templates/preview"⟩]

/-- Uploaded files. -/
def media : List Operation := [
  ⟨"getMedia", .get, "/media"⟩,
  ⟨"createMedia", .post, "/media"⟩,
  ⟨"getMediaById", .get, "/media/\x7bid\x7d"⟩,
  ⟨"updateMediaById", .put, "/media/\x7bid\x7d"⟩,
  ⟨"deleteMediaById", .delete, "/media/\x7bid\x7d"⟩,
  ⟨"uploadMedia", .post, "/media"⟩]

/-- Bulk imports. -/
def imports : List Operation := [
  ⟨"importSubscribers", .post, "/import/subscribers"⟩,
  ⟨"stopImportSubscribers", .delete, "/import/subscribers"⟩,
  ⟨"getImportSubscribers", .get, "/import/subscribers"⟩,
  ⟨"getImportSubscriberLogs", .get, "/import/subscribers/logs"⟩]

/-- Bounced messages. -/
def bounces : List Operation := [
  ⟨"getBounces", .get, "/bounces"⟩,
  ⟨"getBounceById", .get, "/bounces/\x7bid\x7d"⟩,
  ⟨"deleteBounces", .delete, "/bounces"⟩,
  ⟨"deleteBounceById", .delete, "/bounces/\x7bid\x7d"⟩]

/-- Single messages. -/
def transactional : List Operation := [
  ⟨"transactWithSubscriber", .post, "/tx"⟩]

/-- Settings of the server. -/
def settings : List Operation := [
  ⟨"getSettings", .get, "/settings"⟩,
  ⟨"updateSettings", .put, "/settings"⟩,
  ⟨"testSmtpSettings", .post, "/settings/smtp/test"⟩]

/-- Figures of the dashboard. -/
def dashboard : List Operation := [
  ⟨"getDashboardCharts", .get, "/dashboard/charts"⟩,
  ⟨"getDashboardCounts", .get, "/dashboard/counts"⟩]

/-- The server itself. -/
def system : List Operation := [
  ⟨"getServerConfig", .get, "/config"⟩,
  ⟨"getLogs", .get, "/logs"⟩,
  ⟨"reloadApp", .post, "/admin/reload"⟩,
  ⟨"getHealthCheck", .get, "/health"⟩]

/-- All operations of the server. -/
def operations : List Operation :=
  lists ++ subscribers ++ campaigns ++ templates ++ media ++ imports ++ bounces ++ transactional ++
    settings ++ dashboard ++ system

/-- The table of all operations. -/
def table : OperationTable :=
  .ofOperations operations

end Mailroom.Catalog
