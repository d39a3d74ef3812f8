import Tollgate.Text.Basic

namespace Tollgate.Resource

def names : List (String × String) :=
  [("account", "Account"), ("account_link", "AccountLink"), ("account_session", "AccountSession"),
   ("apple_pay_domain", "ApplePayDomain"), ("application", "Application"),
   ("application_fee", "ApplicationFee"), ("apps.secret", "Secret"), ("balance", "Balance"),
   ("balance_transaction", "BalanceTransaction"), ("bank_account", "BankAccount"),
   ("billing.alert", "Alert"), ("billing.alert_triggered", "AlertTriggered"),
   ("billing.credit_balance_summary", "CreditBalanceSummary"),
   ("billing.credit_balance_transaction", "CreditBalanceTransaction"),
   ("billing.credit_grant", "CreditGrant"), ("billing.meter", "Meter"),
   ("billing.meter_event", "MeterEvent"),
   ("billing.meter_event_adjustment", "MeterEventAdjustment"),
   ("billing.meter_event_summary", "MeterEventSummary"),
   ("billing_portal.configuration", "Configuration"), ("billing_portal.session", "Session"),
   ("capability", "Capability"), ("card", "Card"), ("cash_balance", "CashBalance"),
   ("charge", "Charge"), ("checkout.session", "Session"), ("climate.order", "Order"),
   ("climate.product", "Product"), ("climate.supplier", "Supplier"),
   ("confirmation_token", "ConfirmationToken"),
   ("connect_collection_transfer", "ConnectCollectionTransfer"), ("country_spec", "CountrySpec"),
   ("coupon", "Coupon"), ("credit_note", "CreditNote"),
   ("credit_note_line_item", "CreditNoteLineItem"), ("customer", "Customer"),
   ("customer_balance_transaction", "CustomerBalanceTransaction"),
   ("customer_cash_balance_transaction", "CustomerCashBalanceTransaction"),
   ("customer_session", "CustomerSession"), ("discount", "Discount"), ("dispute", "Dispute"),
   ("entitlements.active_entitlement", "ActiveEntitlement"),
   ("entitlements.active_entitlement_summary", "ActiveEntitlementSummary"),
   ("entitlements.feature", "Feature"), ("ephemeral_key", "EphemeralKey"), ("event", "Event"),
   ("exchange_rate", "ExchangeRate"), ("fee_refund", "ApplicationFeeRefund"), ("file", "File"),
   ("file_link", "FileLink"), ("file_upload", "File"),
   ("financial_connections.account", "Account"),
   ("financial_connections.account_owner", "AccountOwner"),
   ("financial_connections.account_ownership", "AccountOwnership"),
   ("financial_connections.session", "Session"),
   ("financial_connections.transaction", "Transaction"), ("forwarding.request", "Request"),
   ("funding_instructions", "FundingInstructions"),
   ("identity.verification_report", "VerificationReport"),
   ("identity.verification_session", "VerificationSession"), ("invoice", "Invoice"),
   ("invoice_payment", "InvoicePayment"),
   ("invoice_rendering_template", "InvoiceRenderingTemplate"), ("invoiceitem", "InvoiceItem"),
   ("issuing.authorization", "Authorization"), ("issuing.card", "Card"),
   ("issuing.cardholder", "Cardholder"), ("issuing.dispute", "Dispute"),
   ("issuing.personalization_design", "PersonalizationDesign"),
   ("issuing.physical_bundle", "PhysicalBundle"), ("issuing.token", "Token"),
   ("issuing.transaction", "Transaction"), ("item", "LineItem"), ("line_item", "InvoiceLineItem"),
   ("list", "ListObject"), ("login_link", "LoginLink"), ("mandate", "Mandate"),
   ("payment_intent", "PaymentIntent"), ("payment_link", "PaymentLink"),
   ("payment_method", "PaymentMethod"),
   ("payment_method_configuration", "PaymentMethodConfiguration"),
   ("payment_method_domain", "PaymentMethodDomain"), ("payout", "Payout"), ("person", "Person"),
   ("plan", "Plan"), ("price", "Price"), ("product", "Product"),
   ("product_feature", "ProductFeature"), ("promotion_code", "PromotionCode"), ("quote", "Quote"),
   ("radar.early_fraud_warning", "EarlyFraudWarning"), ("radar.value_list", "ValueList"),
   ("radar.value_list_item", "ValueListItem"), ("refund", "Refund"),
   ("reporting.report_run", "ReportRun"), ("reporting.report_type", "ReportType"),
   ("reserve_transaction", "ReserveTransaction"), ("review", "Review"),
   ("scheduled_query_run", "ScheduledQueryRun"), ("search_result", "SearchResultObject"),
   ("setup_attempt", "SetupAttempt"), ("setup_intent", "SetupIntent"),
   ("shipping_rate", "ShippingRate"), ("source", "Source"),
   ("source_mandate_notification", "SourceMandateNotification"),
   ("source_transaction", "SourceTransaction"), ("subscription", "Subscription"),
   ("subscription_item", "SubscriptionItem"), ("subscription_schedule", "SubscriptionSchedule"),
   ("tax.calculation", "Calculation"), ("tax.calculation_line_item", "CalculationLineItem"),
   ("tax.registration", "Registration"), ("tax.settings", "Settings"),
   ("tax.transaction", "Transaction"), ("tax.transaction_line_item", "TransactionLineItem"),
   ("tax_code", "TaxCode"), ("tax_deducted_at_source", "TaxDeductedAtSource"), ("tax_id", "TaxId"),
   ("tax_rate", "TaxRate"), ("terminal.configuration", "Configuration"),
   ("terminal.connection_token", "ConnectionToken"), ("terminal.location", "Location"),
   ("terminal.reader", "Reader"), ("test_helpers.test_clock", "TestClock"), ("token", "Token"),
   ("topup", "Topup"), ("transfer", "Transfer"), ("transfer_reversal", "Reversal"),
   ("treasury.credit_reversal", "CreditReversal"), ("treasury.debit_reversal", "DebitReversal"),
   ("treasury.financial_account", "FinancialAccount"),
   ("treasury.financial_account_features", "FinancialAccountFeatures"),
   ("treasury.inbound_transfer", "InboundTransfer"),
   ("treasury.outbound_payment", "OutboundPayment"),
   ("treasury.outbound_transfer", "OutboundTransfer"),
   ("treasury.received_credit", "ReceivedCredit"), ("treasury.received_debit", "ReceivedDebit"),
   ("treasury.transaction", "Transaction"), ("treasury.transaction_entry", "TransactionEntry"),
   ("webhook_endpoint", "WebhookEndpoint")]

/-- The name of a kind; all kinds that are not listed share one. -/
def nameOf (kind : Text) : String :=
  ((names.find? fun (known, _) => Text.lit known = kind).map (·.2)).getD "StripeObject"

end Tollgate.Resource
